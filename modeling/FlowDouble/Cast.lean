import FlowDouble.Attributes
import FlowDouble.Construction
import FlowDouble.Number.Numeral
/-! Plain values made of other values: whole numbers, reals, texts, bytes, rows and dictionaries.
Numbers are read from texts and from bytes alike. -/
namespace FlowDouble

open FlowDouble.Action

namespace Cast

structure Source where
  characters : List Char
  shown : List Char
  deriving Repr

def byteCharacter (b : UInt8) : Char := if b.toNat < 0x80 then Char.ofNat b.toNat else '?'

def source? : Value → Option Source
  | .text s => some ⟨s.toList.map Numeral.plain, Text.quoted s.toList⟩
  | .bytes bs => some ⟨bs.map byteCharacter, Text.quotedBytes bs⟩
  | _ => none

def shownLength : Nat := 200

def malformed (base : Nat) (shown : List Char) : Fault :=
  .told .wrongValue ("invalid literal for int() with base " ++ toString base ++ ": " ++
    String.ofList (shown.take shownLength))

def tooLong (digits limit : Nat) : Fault :=
  .told .wrongValue ("Exceeds the limit (" ++ toString limit ++
    " digits) for integer string conversion: value has " ++ toString digits ++
    " digits; use sys.set_int_max_str_digits() to increase the limit")

def readWhole (base : Nat) (s : Source) : Except Fault Int :=
  match Numeral.readIn base s.characters with
  | .ok n => .ok n
  | .error .malformed => .error (malformed base s.shown)
  | .error (.tooLong digits limit) => .error (tooLong digits limit)

def truncated : Number → Except Fault Int
  | .finite m q => .ok (if 0 ≤ q then m * twoTo q.toNat else m.tdiv (twoTo (-q).toNat))
  | .infinite _ => .error (.told .tooLarge "cannot convert float infinity to integer")
  | .undefined => .error (.told .wrongValue "cannot convert float NaN to integer")

def whole (v : Value) : Except Fault Int :=
  match v.number?, source? v with
  | some n, _ => truncated n
  | none, some s => readWhole 10 s
  | none, none =>
    .error (.told .wrongType ("int() argument must be a string, a bytes-like object or a " ++
      "real number, not " ++ Misuse.quotedName v.kindOf.fullName))

def index (v : Value) : Except Fault Int :=
  match v with
  | .int n => .ok n
  | .bool b => .ok (if b then 1 else 0)
  | v =>
    .error (.told .wrongType
      (Misuse.quotedName v.kindOf.fullName ++ " object cannot be interpreted as an integer"))

def isBase (n : Int) : Bool := n == 0 || (2 ≤ n && n ≤ 36)

def wholeIn (base v : Value) : Except Fault Int := do
  let base ← index base
  if !isBase base then
    throw (.told .wrongValue "int() base must be >= 2 and <= 36, or 0")
  match source? v with
  | some s => readWhole base.toNat s
  | none => throw (.told .wrongType "int() can't convert non-string with explicit base")

def wordOf (n : Int) : Except Fault UInt64 :=
  let w := Binary64.ofQuotient (n < 0) n.natAbs 1
  match Binary64.number w with
  | .finite .. => .ok w
  | _ => .error (.told .tooLarge "int too large to convert to float")

def word (v : Value) : Except Fault UInt64 :=
  match v, source? v with
  | .int n, _ => wordOf n
  | .bool b, _ => wordOf (if b then 1 else 0)
  | _, some s =>
    match Numeral.readReal s.characters with
    | some w => .ok w
    | none =>
      .error (.told .wrongValue ("could not convert string to float: " ++ String.ofList s.shown))
  | v, none =>
    .error (.told .wrongType ("float() argument must be a string or a real number, not " ++
      Misuse.quotedName v.kindOf.fullName))

def real (v : Value) : Action Value := do
  match v with
  | .float .. => return v
  | v => return .float (← newTag) (← ofExcept (word v))

def byte (v : Value) : Except Fault UInt8 := do
  let n ← index v
  if 0 ≤ n ∧ n < 256 then return UInt8.ofNat n.toNat
  else throw (.told .wrongValue "bytes must be in range(0, 256)")

def zeros (n : Int) : Except Fault (List UInt8) :=
  if !countable n then .error (.misuse .hugeCount)
  else if n < 0 then .error (.told .wrongValue "negative count")
  else .ok (List.replicate n.toNat 0)

def bytesFrom (source : Value) : List Value → Action (List UInt8)
  | [] => return []
  | v :: vs => do
    take source v
    let b ← ofExcept (byte v)
    return b :: (← bytesFrom source vs)

def bytes (v : Value) : Action Value := do
  match v with
  | .bytes _ => return v
  | .text _ => misuse (.told .wrongType "string argument without an encoding")
  | .int n => return .bytes (← ofExcept (zeros n))
  | .bool b => return .bytes (← ofExcept (zeros (if b then 1 else 0)))
  | v =>
    match (← world).elements? v with
    | some vs => return .bytes (← bytesFrom v vs)
    | none =>
      misuse (.told .wrongType
        ("cannot convert " ++ Misuse.quotedName v.kindOf.fullName ++ " object to bytes"))

def tuple (v : Value) : Action Value := do
  match v with
  | .tuple .. => return v
  | v => newTuple (← elements v)

end Cast

namespace Kind

def castOne (k : Kind) (empty : Action Value) (cast : Value → Action Value) (a : Arguments) :
    Action Value :=
  match a with
  | ⟨[], []⟩ => empty
  | ⟨[v], []⟩ => cast v
  | ⟨_, _ :: _⟩ => misuse (.call k.name .noneNamed)
  | ⟨vs, []⟩ => misuse (.call k.name (.atMostOne vs.length))

def castWhole (a : Arguments) : Action Value := do
  match a with
  | ⟨[v, base], []⟩ | ⟨[v], [("base", base)]⟩ => return .int (← ofExcept (Cast.wholeIn base v))
  | ⟨[], [("base", _)]⟩ => misuse (.told .wrongType "int() missing string argument")
  | ⟨[v], []⟩ => return .int (← ofExcept (Cast.whole v))
  | ⟨[], []⟩ => return .int 0
  | ⟨[], [(name, _)]⟩ | ⟨[_], [(name, _)]⟩ => misuse (.call int.name (.invalid name))
  | ⟨vs, named⟩ => misuse (.call int.name (.atMostTwo (vs.length + named.length)))

def castDictionary [Calls] (a : Arguments) : Action Value := do
  let made ← match a.placed with
    | [] => newDictionary []
    | [v] => v.copied
    | vs => misuse (.call dictionary.name (.atMostOne vs.length))
  Value.forPairs made.insertEntry (namedEntries a.named)
  return made

def cast [Calls] (k : Kind) (a : Arguments) : Action Value :=
  match k with
  | int => castWhole a
  | float => k.castOne (do return .float (← newTag) 0) Cast.real a
  | text => k.castOne (return .text "") (fun v => do return .text (← Action.shown v)) a
  | bool => k.castOne (return .bool false) (fun v => do return .bool (← truthy v)) a
  | list => k.castOne (newList []) (fun v => do newList (← elements v)) a
  | tuple => k.castOne (newTuple []) Cast.tuple a
  | bytes => k.castOne (return .bytes []) Cast.bytes a
  | dictionary => castDictionary a
  | k => k.make a

end Kind

end FlowDouble
