import FlowDouble.Call
import FlowDouble.Iteration
/-! Going through the entries of mappings and copying them. What a mapping is asked for by name,
its keys, its items or the dictionary it tells, can be hidden by what is put on it. -/
namespace FlowDouble

open FlowDouble.Action

inductive Taker where
  | dictionary
  | map
  deriving DecidableEq, Repr

namespace Taker

def reach : Taker → List Value → List Value
  | dictionary, vs => vs
  | map, vs => vs.take 3

def notPair (t : Taker) (index : Nat) (v : Value) : Misuse :=
  match t with
  | dictionary => .notPair index
  | map => .notUnpacked v.root.kindOf

def badSize (t : Taker) (index size : Nat) : Misuse :=
  match t with
  | dictionary => .pairSize index size
  | map => if size < 2 then .incomplete size else .overfull

def pair (t : Taker) (index : Nat) (v : Value) : Action (Value × Value) := do
  match (← world).elements? v with
  | none => misuse (t.notPair index v)
  | some vs =>
    takeAll v (t.reach vs)
    match vs with
    | [key, value] => return (key, value)
    | vs => misuse (t.badSize index vs.length)

end Taker

def entryNames : List String := ["keys", "items", "as_dict"]

namespace World

def hidesEntries (w : World) (v : Value) : Bool :=
  entryNames.any fun name => (w.attachment? v name).isSome

def tellsEntries (w : World) : Value → Bool
  | .dictionary _ => true
  | .parameters m => !w.hidesEntries (.parameters m)
  | .attributes tag shared backing =>
    !w.hidesEntries (.attributes tag shared backing) && w.tellsEntries backing
  | _ => false

end World

namespace Value

def forPairs (f : Value → Value → Action Unit) : List (Value × Value) → Action Unit
  | [] => return ()
  | (key, value) :: rest => do
    f key value
    forPairs f rest

def forYield (f : Value → Value → Action Unit) (y : Yield (Value × Value)) : Action Unit := do
  forPairs f y.items
  finish y

def forParts (t : Taker) (f : Value → Value → Action Unit) (source : Value) : Action Unit :=
  visitAll source fun index part => do
    let (key, value) ← t.pair index part
    f key value

def forEach (f : Value → Action Unit) : List Value → Action Unit
  | [] => return ()
  | v :: vs => do
    f v
    forEach f vs

def forKeys (t : Taker) (f : Value → Value → Action Unit) (source keys : Value) : Action Unit :=
  let entry (key : Value) : Action Unit := do f key (← ofExcept ((← world).item source key))
  match t with
  | .dictionary => do forEach entry (← elements keys)
  | .map => visitAll keys fun _ => entry

def keysHidden? (t : Taker) (source : Value) : Action (Option Value) :=
  if t = .map ∧ source.isMapping then return none
  else return (← world).attachment? source "keys"

variable [Calls]

def forEntries (t : Taker) (f : Value → Value → Action Unit) (source : Value) : Action Unit := do
  match ← source.keysHidden? t, source with
  | some x, source => forKeys t f source (← Calls.apply x ⟨[], []⟩)
  | none, .kind k =>
    if k.under .mapping then misuse (.ofKind k "keys") else misuse (.notIterable (.kindOf k))
  | none, source =>
    if source.isMapping then forYield f ((← world).items source) else forParts t f source

def forItems (f : Value → Value → Action Unit) (source : Value) : Action Unit := do
  match (← world).attachment? source "items" with
  | some x => forParts .map f (← Calls.apply x ⟨[], []⟩)
  | none => forYield f (← entriesAs "items" source)

def insertEntry (dictionary key value : Value) : Action Unit := do
  requireHashable key
  match dictionary with
  | .dictionary r => modify fun w => w.setDictionary r ((w.dictionary r).insert key value)
  | _ => return ()

def copied (v : Value) : Action Value := do
  let w ← world
  if w.tellsEntries v then newDictionary (w.items v).items
  else
    let copy ← newDictionary []
    forEntries .dictionary copy.insertEntry v
    return copy

def told (v : Value) : Action Value :=
  match v with
  | .attributes _ _ backing => v.answer "as_dict" ⟨[], []⟩ backing.copied
  | v => v.copied

def listing (v : Value) : Action Value := do
  match (← world).attachment? v "items" with
  | some x => (← Calls.apply x ⟨[], []⟩).copied
  | none => newDictionary (.ofPairs (← entries "items" v))

end Value

end FlowDouble
