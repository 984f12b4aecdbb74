import FlowDouble.Parameters.Entry
import FlowDouble.Snapshot.Equal
/-! Reading, writing and deleting parts of values by key or by position, and looking for a part.
What an attribute map is asked for goes to the value at the end of its chain. -/
namespace FlowDouble

open FlowDouble.Action

def occursIn {α : Type} [BEq α] (part : List α) : List α → Bool
  | [] => part.isEmpty
  | x :: xs => part.isPrefixOf (x :: xs) || occursIn part xs

namespace Value

def getItem (v key : Value) : Action Value := do ofExcept ((← world).item v key)

def find (v key : Value) : Action (Option Value) := do
  match (← world).item v key with
  | .ok x => return some x
  | .error (.missingKey _) => return none
  | .error f => throw f

def pairsOf : Entries → Action (List Value)
  | [] => return []
  | (k, v) :: es => do
    let p ← newTuple [k, v]
    return p :: (← pairsOf es)

def setItem [Calls] (v key value : Value) : Action Unit := do
  match v.root with
  | .dictionary r => (Value.dictionary r).insertEntry key value
  | .parameters m => m.assign key value
  | .list r =>
    let vs := (← world).list r
    let i ← ofExcept (position .list (.outsideAssigned .list) vs.length key)
    modify fun w => w.setList r (vs.set i value)
  | root => misuse (.noItemAssignment root.kindOf)

def deleteItem (v key : Value) : Action Unit := do
  match v.root with
  | .dictionary r =>
    let _ ← ofExcept (((← world).dictionary r).require key)
    modify fun w => w.setDictionary r ((w.dictionary r).erase key)
  | .parameters m => m.erase key
  | .list r =>
    let vs := (← world).list r
    let i ← ofExcept (position .list (.outsideAssigned .list) vs.length key)
    modify fun w => w.setList r (vs.eraseIdx i)
  | root => refuseDeletion root.kindOf key

variable [Calls]

def isEqual (a b : Value) : Action Bool := do
  let w ← world
  ofExcept ((w.snapshot a).equal (w.snapshot b))

def isAlike (a b : Value) : Action Bool := do
  let w ← world
  ofExcept ((w.snapshot a).alike (w.snapshot b))

def isAmong (source key : Value) : List Value → Action Bool
  | [] => return false
  | x :: xs => do
    take source x
    if x.same key then return true
    else if ← isAlike x key then return true
    else isAmong source key xs

def bytesContain (bs : List UInt8) (key : Value) : Action Bool :=
  let byte (n : Int) : Action Bool :=
    if 0 ≤ n ∧ n < 256 then return bs.contains (UInt8.ofNat n.toNat) else misuse .notByte
  match key with
  | .bytes part => return occursIn part bs
  | .int n => byte n
  | .bool b => byte (if b then 1 else 0)
  | key => misuse (.notBytes key.kindOf)

def hasKey (v key : Value) : Action Bool := do
  match v with
  | .dictionary r => do
    requireHashable key
    return ((← world).dictionary r).has key
  | v => return (← v.find key).isSome

def contains (v key : Value) : Action Bool := do
  match v with
  | .dictionary _ | .attributes .. | .parameters _ => v.hasKey key
  | .facet _ .keys map => map.hasKey key
  | .facet _ .items map => do
    let (key, value) ← Taker.map.pair 0 key
    match ← map.find key with
    | some x => if x.same value then return true else isAlike x value
    | none => return false
  | .text s =>
    match key with
    | .text part => return occursIn part.toList s.toList
    | key => misuse (.notTextPart key.kindOf)
  | .bytes bs => bytesContain bs key
  | v =>
    match (← world).elements? v with
    | some vs => isAmong v key vs
    | none => misuse (.notContainer v.kindOf)

def setItems (target : Value) (pairs : List (Value × Value)) : Action Unit :=
  forPairs target.setItem pairs

def update (t : Taker) (target source : Value) : Action Unit := source.forEntries t target.setItem

end Value

end FlowDouble
