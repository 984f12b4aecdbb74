import FlowDouble.Item
import FlowDouble.Parameters.Reading
import FlowDouble.Snapshot.Equal
import FlowDouble.Sorting
/-! Attribute maps: a view of a mapping that more than one map may look at. Every map over the
same mapping sees what is written through any of them. What a map is over is not checked: a map
over something else can do what that allows. -/
namespace FlowDouble.Attributes

open FlowDouble.Action

variable [Calls]

def previous (backing key : Value) : Action Value := do
  match backing with
  | .dictionary _ => return (← backing.find key).getD .null
  | .attributes .. => backing.answer "get" ⟨[key], []⟩ do return (← backing.find key).getD .null
  | .parameters m => m.askFor key
  | backing => backing.answer "get" ⟨[key], []⟩ (missing backing "get")

def put (backing key value : Value) : Action Value := do
  let before ← previous backing key
  backing.setItem key value
  return before

def putAll (backing source : Value) : Action Unit := do
  match backing with
  | .dictionary _ => Value.update .dictionary backing source
  | backing =>
    let _ ← backing.answer "update" ⟨[source], []⟩ <| yieldNothing <|
      match backing with
      | .attributes .. => Value.update .map backing source
      | backing => missing backing "update"

def pop (map key : Value) (default : Option Value) : Action Value := do
  match (← world).item map key, default with
  | .ok v, _ => do
    map.deleteItem key
    return v
  | .error (.missingKey _), some d => return d
  | .error f, _ => throw f

def remove (backing key : Value) : Action Value := do
  match backing with
  | .dictionary r =>
    -- an empty dictionary does not even look at the key
    if ((← world).dictionary r).isEmpty then return .null
    else pop backing key (some .null)
  | .list _ => misuse (.call "pop" (.atMostOne 2))
  | backing =>
    backing.answer "pop" ⟨[key, .null], []⟩ <|
      match backing with
      | .attributes .. => pop backing key (some .null)
      | backing => missing backing "pop"

mutual

def isInstance (value : Value) : Value → Except Fault Bool
  | .kind k => .ok (value.isA k)
  | .tuple _ ks => isInstanceOfAny value ks
  | _ => .error (.misuse .notKind)

def isInstanceOfAny (value : Value) : List Value → Except Fault Bool
  | [] => .ok false
  | k :: ks => do if ← isInstance value k then return true else isInstanceOfAny value ks

end

def available (backing : Value) : Action Value := do
  let keys ← elements backing
  let w ← world
  let keys ← ofExcept (Sorting.sort (fun a b => (w.snapshot a).less (w.snapshot b)) keys)
  if keys.isEmpty then return .null else newList keys

def getRequired (backing key expected : Value) : Action Value := do
  if ← backing.contains key then
    let value ← backing.getItem key
    if expected.isNull then return value
    else if ← ofExcept (isInstance value expected) then return value
    else
      let shownKey ← shown key
      let name ← shown (← ofExcept (Report.kindName (← world) expected))
      refuseType ("Attribute '" ++ shownKey ++ "' is not of type " ++ name) key expected value
  else
    let message := "Required attribute '" ++ (← shown key) ++ "' is not present"
    refuseMissing message key [(.text "available", ← available backing)]

def union (map other : Value) : Action Value := do
  let merged ← map.told
  putAll merged other
  newAttributes false merged

def get (map key default : Value) : Action Value := do
  return (← map.find key).getD default

def popFirst (map : Value) : Action Value := do
  match ← ahead map with
  | [] => throw (.missingKey none)
  | key :: _ =>
    take map key
    let value ← map.getItem key
    map.deleteItem key
    newTuple [key, value]

def popsFirst (map : Value) : Action Bool :=
  tryCatch
    (do
      let _ ← map.answer "popitem" ⟨[], []⟩ (popFirst map)
      return true)
    fun f => if f.kind.under .missingKey then return false else throw f

def clearSome (map : Value) : Nat → Action Unit
  | 0 => return ()
  | n + 1 => do if ← popsFirst map then clearSome map n else return ()

def clear (map : Value) : Action Unit := do
  clearSome map ((((← world).elements? map).getD []).length + 1)

def update (map : Value) (source : Option Value) (named : Entries) : Action Unit := do
  match source with
  | some v => Value.update .map map v
  | none => pure ()
  map.setItems named

def getOrPut (map key default : Value) : Action Value := do
  match ← map.find key with
  | some v => return v
  | none => do map.setItem key default; return default

end FlowDouble.Attributes
