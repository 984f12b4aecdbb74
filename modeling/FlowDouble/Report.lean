import FlowDouble.Snapshot.Text
/-! Reports as each kind of failure makes them. A fact is noted for debugging only where it is
not empty, so an empty name or a missing value leaves no note. -/
namespace FlowDouble

namespace Report

def nameMember : String := "__name__"

def kindName (w : World) (v : Value) : Except Fault Value :=
  match w.attachment? v nameMember, v with
  | some x, _ => .ok x
  | none, .kind k => .ok (.text k.name)
  | none, .converter .length => .ok (.text "len")
  | none, .function r => .ok (.text (w.function r).handler.name)
  | none, .operation _ _ name => .ok (.text name)
  | none, v => .error (.misuse (.noMember v nameMember))

def general (message : Value) (metadata : Entries) : Report :=
  { diagnosis := .general, message, metadata }

def illegalState (message : Value) (metadata : Entries) : Report :=
  { diagnosis := .illegalState, message, metadata }

def popupMessage : String :=
  "Only call request_redirect_in_popup after a redirect has been requested by calling " ++
    "request_flow_execution_redirect, request_flow_definition_redirect, or " ++
    "request_external_redirect"

def redirectNotRequested (w : World) (message : Value) (metadata : Entries) :
    Except Fault Report := do
  let given ← w.truthy message
  return {
    diagnosis := .redirectNotRequested
    message := if given then message else .text popupMessage
    metadata
    suggestions := [.text "Request a redirect first, then mark it as a popup redirect"] }

def responseNotAllowed (message reason : Value) (metadata : Entries) : Report :=
  { diagnosis := .responseNotAllowed reason
    message
    metadata := (.text "reason", reason) :: metadata
    -- with this reason nothing but an override forbids the response
    suggestions :=
      if reason.sameKey (.text "not_allowed") then []
      else [.text "Set response_allowed = True to write a response regardless"] }

def noteOf (w : World) (name : String) (v : Value) : Except Fault Entries := do
  if ← w.truthy v then return [(.text name, v)] else return []

def configuration (w : World) (message field : Value) (metadata : Entries) :
    Except Fault Report := do
  return {
    diagnosis := .configuration
    message
    metadata := (.text "field", field) :: metadata
    debug := ← noteOf w "configuration_field" field }

def attributeNotFound (w : World) (message key : Value) (metadata : Entries) :
    Except Fault Report := do
  return {
    diagnosis := .attributeNotFound key
    message
    metadata := (.text "key", key) :: metadata
    debug := ← noteOf w "missing_key" key }

def expectedNote (w : World) : Value → Except Fault Entries
  | .null => .ok []
  | expected => do
    let name ← kindName w expected
    return [(.text "expected_type", name)]

def actualNote : Value → Entries
  | .null => []
  | value => [(.text "actual_type", .text value.kindOf.name)]

def attributeType (w : World) (message key expected value : Value) (metadata : Entries) :
    Except Fault Report := do
  let wanted ← expectedNote w expected
  return {
    diagnosis := .attributeType key expected
    message
    metadata := (.text "key", key) :: metadata
    debug := wanted ++ actualNote value }

end Report

namespace Action

def refuse {α : Type} (r : Report) : Action α := throw (.report r)

def refuseWith {α : Type} (r : Except Fault Report) : Action α := do refuse (← ofExcept r)

def shown [Calls] (v : Value) : Action String := do ofExcept ((← world).snapshot v).display

def spelled [Calls] (v : Value) : Action String := do ofExcept ((← world).snapshot v).spell

def refuseType {α : Type} (message : String) (key expected value : Value) : Action α := do
  refuseWith (Report.attributeType (← world) (.text message) key expected value [])

def refuseMissing {α : Type} (message : String) (key : Value) (metadata : Entries) :
    Action α := do
  refuseWith (Report.attributeNotFound (← world) (.text message) key metadata)

def newError (k : Kind) (e : Raised) : Action Value :=
  modifyGet fun w => (.error k w.errors.length, { w with errors := w.errors.push e })

def keep (f : Fault) : Action Value := do
  let arguments ← newTuple f.arguments
  match f with
  | .report r => newError f.kind (.report r (← newDictionary r.metadata) arguments)
  | .misuse (.noMember owner name) => do
    let e ← newError f.kind (.plain f.kind arguments)
    attach e "name" (.text name)
    attach e "obj" owner
    return e
  | f => newError f.kind (.plain f.kind arguments)

end Action

end FlowDouble
