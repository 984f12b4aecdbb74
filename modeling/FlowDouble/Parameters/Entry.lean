import FlowDouble.Report
/-! What a request can carry as a parameter: a text, an uploaded file, or a row of only one of
the two. Rows are kept as tuples, so nothing outside can change them. -/
namespace FlowDouble

def allOneKind (vs : List Value) : Bool := vs.all Value.isText || vs.all Value.isUpload

def Value.isParameter : Value → Bool
  | .text _ | .upload .. => true
  | .tuple _ vs => allOneKind vs
  | _ => false

namespace Action

def refuseDeletion (k : Kind) (key : Value) : Action Unit := do
  let byPosition ← match key with
    | .int n => if !k.rowLike || countable n then pure k.rowLike else misuse .hugePosition
    | .bool _ => pure k.rowLike
    | _ => pure false
  misuse (.noItemDeletion k byPosition)

end Action

namespace ParameterMap

open FlowDouble.Action

variable [Calls]

def reject {α : Type} (name value : Value) : Action α := do
  let shownName ← shown name
  refuseType ("Request parameter '" ++ shownName ++
    "' must be a string, a multipart file, or a list of either") name .null value

def accept (name value : Value) : Action Value :=
  match value with
  | .list r => do
    let vs := (← world).list r
    if allOneKind vs then newTuple vs else reject name value
  | value => if value.isParameter then pure value else reject name value

def put (m : ParameterMap) (name value : Value) : Action Unit := do
  let value ← accept name value
  requireHashable name
  modify fun w => w.setParameters m ((w.parameters m).insert name value)

def askToPut (m : ParameterMap) (name value : Value) : Action Unit := do
  let _ ← (Value.parameters m).answer "put" ⟨[name, value], []⟩ (yieldNothing (m.put name value))

def assign (m : ParameterMap) (name value : Value) : Action Unit :=
  if m.writable then m.askToPut name value
  else misuse (.noItemAssignment (Value.parameters m).kindOf)

def erase (m : ParameterMap) (name : Value) : Action Unit := do
  if m.writable then
    let _ ← ofExcept (((← world).parameters m).require name)
    modify fun w => w.setParameters m ((w.parameters m).erase name)
  else refuseDeletion (Value.parameters m).kindOf name

def create (writable : Bool) (source : Value) : Action ParameterMap := do
  let m ← newParameters writable []
  if ← truthy source then source.forItems m.put
  return m

end ParameterMap

end FlowDouble
