import FlowDouble.World
/-! What values contain: parts in order, the part at a position, the value under a key. An
attribute map contains what the value at the end of its chain does. -/
namespace FlowDouble

structure Yield (α : Type) where
  items : List α
  fault : Option Fault := none
  deriving Repr

namespace Value

def checkKey (key : Value) : Except Fault Unit :=
  match key.changeable? with
  | some k => .error (.misuse (.unhashable k))
  | none => .ok ()

def isMapping : Value → Bool
  | dictionary _ | attributes .. | parameters _ => true
  | _ => false

def parts : Value → List Value
  | tuple _ vs => vs
  | _ => []

def characters (s : String) : List Value := s.toList.map fun c => text (String.singleton c)

def numbers (bs : List UInt8) : List Value := bs.map fun b => int b.toNat

end Value

def Entries.require (es : Entries) (key : Value) : Except Fault Value := do
  key.checkKey
  match es.find? key with
  | some v => .ok v
  | none => .error (.missingKey (some key))

def countable (n : Int) : Bool := -(twoTo 63 : Int) ≤ n && n < twoTo 63

def positionOf (holder : Kind) : Value → Except Fault Int
  | .int n => if countable n then .ok n else .error (.misuse .hugePosition)
  | .bool b => .ok (if b then 1 else 0)
  | v => .error (.misuse (.notPosition holder v.kindOf))

def position (holder : Kind) (beyond : Misuse) (n : Nat) (key : Value) : Except Fault Nat := do
  let i ← positionOf holder key
  let j := if i < 0 then i + n else i
  if 0 ≤ j ∧ j < n then return j.toNat else throw (.misuse beyond)

def partAt (holder : Kind) (vs : List Value) (key : Value) : Except Fault Value := do
  let i ← position holder (.outside holder) vs.length key
  return vs[i]?.getD .null

def lines : List UInt8 → List (List UInt8)
  | [] => []
  | b :: bs =>
    if b = 10 then [b] :: lines bs
    else match lines bs with
      | [] => [[b]]
      | l :: ls => (b :: l) :: ls

namespace World

def rootElements? (w : World) : Value → Option (List Value)
  | .dictionary r => some (w.dictionary r).keys
  | .parameters m => some (w.parameters m).keys
  | .list r => some (w.list r)
  | .tuple _ vs => some vs
  | .text s => some (Value.characters s)
  | .bytes bs => some (Value.numbers bs)
  | .writer _ => some []
  | .stream r =>
    let s := w.stream r
    some ((lines (s.content.drop s.position)).map .bytes)
  | _ => none

def item (w : World) (v key : Value) : Except Fault Value :=
  match v.root with
  | .dictionary r => (w.dictionary r).require key
  | .parameters m => (w.parameters m).require key
  | .list r => partAt .list (w.list r) key
  | .tuple _ vs => partAt .tuple vs key
  | .text s => partAt .text (Value.characters s) key
  | .bytes bs => partAt .bytes (Value.numbers bs) key
  | root => .error (.misuse (.notSubscriptable root))

def itemsUnder (w : World) (v : Value) : List Value → Yield (Value × Value)
  | [] => ⟨[], none⟩
  | k :: ks =>
    match w.item v k with
    | .ok x => let rest := w.itemsUnder v ks; { rest with items := (k, x) :: rest.items }
    | .error f => ⟨[], some f⟩

def items (w : World) (v : Value) : Yield (Value × Value) :=
  match v.root with
  | .dictionary r => ⟨w.dictionary r, none⟩
  | .parameters m => ⟨w.parameters m, none⟩
  | root =>
    match w.rootElements? root with
    | some ks => w.itemsUnder root ks
    | none => ⟨[], some (.misuse (.notIterable root.kindOf))⟩

def facetElements? (w : World) (tag : Nat) (map : Value) : Facet → Option (List Value)
  | .keys => w.rootElements? map.root
  | .values => some ((w.items map).items.map (·.2))
  | .items => some ((w.items map).items.map fun e => .tuple tag [e.1, e.2])

def elements? (w : World) (v : Value) : Option (List Value) :=
  match v.root with
  | .facet tag f map => w.facetElements? tag map f
  | root => w.rootElements? root

def length (w : World) (v : Value) : Except Fault Nat :=
  match v.root with
  | .writer r => .error (.misuse (.noLength (Value.writer r).kindOf))
  | .stream r => .error (.misuse (.noLength (Value.stream r).kindOf))
  | root =>
    match w.elements? root with
    | some vs => .ok vs.length
    | none => .error (.misuse (.noLength root.kindOf))

def truthy (w : World) (v : Value) : Except Fault Bool :=
  match v with
  | .null => .ok false
  | .bool b => .ok b
  | .int n => .ok (n != 0)
  | .float _ word => .ok (!(Binary64.number word).equal (.ofInt 0))
  | .text s => .ok (!s.isEmpty)
  | .bytes bs => .ok (!bs.isEmpty)
  | .tuple _ vs => .ok (!vs.isEmpty)
  | .list r => .ok (!(w.list r).isEmpty)
  | .dictionary _ | .attributes .. | .parameters _ | .facet .. => return (← w.length v) != 0
  | _ => .ok true

end World

end FlowDouble
