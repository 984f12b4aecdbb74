import FlowDouble.Context.Setting
/-! The response of a context: who may write it, how it is completed, and the redirects that
complete it. A context asks itself by name, so what is put on it is heard. -/
namespace FlowDouble

inductive Template.Part where
  | fixed (s : String)
  | slot (name : String)
  deriving DecidableEq, Repr

abbrev Template := List Template.Part

def Template.text (t : Template) : String :=
  String.join (t.map fun
    | .fixed s => s
    | .slot name => "\x7b" ++ name ++ "\x7d")

def Template.fill (t : Template) (value : String → String) : String :=
  String.join (t.map fun
    | .fixed s => s
    | .slot name => value name)

def executionAddress : Template :=
  [.fixed "/", .slot "flow_id", .fixed "?execution=", .slot "flow_execution_key"]

namespace Context

open FlowDouble.Action

def eventParameter : String := "_eventId"

def refusal (c : Context) : Report :=
  let because (what : String) :=
    Value.text ("A response is not allowed because " ++ what ++ " on this ExternalContext")
  -- what was requested counts, not in which order
  if c.executionRedirect then
    Report.responseNotAllowed (because "a redirect has already been requested")
      (.text "flow_execution_redirect") []
  else if c.definitionRedirect then
    Report.responseNotAllowed (because "a flowRedirect has already been requested")
      (.text "flow_definition_redirect") [(.text "flow_id", c.redirectFlow)]
  else if c.externalRedirect then
    Report.responseNotAllowed (because "an externalRedirect has already been requested")
      (.text "external_redirect") [(.text "location", c.externalUrl)]
  else if c.complete then
    Report.responseNotAllowed (because "one has already been completed")
      (.text "response_complete") []
  else
    Report.responseNotAllowed (.text "A response is not allowed") (.text "not_allowed") []

variable [Calls]

def responseWriter (r : Nat) : Action Value := do
  let allowed ← truthy (← isResponseAllowed r)
  let c := (← world).context r
  if allowed then return .writer c.writer else refuse c.refusal

def recordComplete (r : Nat) : Action Unit := do
  change r fun c => { c with complete := true }
  record .complete

def askToComplete (r : Nat) : Action Unit := do
  let _ ← (Value.context r).answer "record_response_complete" ⟨[], []⟩
    (yieldNothing (recordComplete r))

def redirectExecution (r : Nat) : Action Unit := do
  change r fun c => { c with executionRedirect := true }
  record .executionRedirect
  askToComplete r

def fillInput (input source : Value) : Action Unit :=
  match input with
  | .attributes _ _ backing => Attributes.putAll backing source
  | _ => return ()

/-- The input is copied into a map of its own. The flow and that map are kept even when the
copy fails half way. -/
def redirectDefinition (r : Nat) (flow input : Value) : Action Unit := do
  change r fun c => { c with redirectFlow := flow }
  let own ← newAttributes false .null
  change r fun c => { c with redirectInput := own }
  if !input.isNull then fillInput own input
  record (.definitionRedirect (← shown flow))
  askToComplete r

def redirectExternal (r : Nat) (location : Value) : Action Unit := do
  change r fun c => { c with externalUrl := location }
  record (.externalRedirect (← shown location))
  askToComplete r

def popUp (r : Nat) : Action Unit := do
  if ← truthy (← isRedirectRequested r) then
    change r fun c => { c with popup := true }
    record .popup
  else refuseWith (Report.redirectNotRequested (← world) .null [])

def executionUrl (flow key : Value) : Action Value := do
  let flow ← shown flow
  let key ← shown key
  return .text (executionAddress.fill fun name => if name = "flow_id" then flow else key)

def writableParameters (r : Nat) : Action ParameterMap := do
  let m := ((← world).context r).parameters
  if m.writable then return m
  else
    misuse (.told .wrongType ("Request parameter map is a " ++ Kind.parameters.name ++ ", not a " ++
      Kind.writableParameters.name))

def putParameter (r : Nat) (name value : Value) : Action Unit := do
  (← writableParameters r).askToPut name value

def askToPut (r : Nat) (name value : Value) : Action Unit := do
  let _ ← (Value.context r).answer "put_request_parameter" ⟨[name, value], []⟩
    (yieldNothing (putParameter r name value))

def setEvent (r : Nat) (event : Value) : Action Unit :=
  askToPut r (.text eventParameter) event

def askToSignal (r : Nat) (event : Value) : Action Unit := do
  let _ ← (Value.context r).answer "set_event_id" ⟨[event], []⟩ (yieldNothing (setEvent r event))

end Context

end FlowDouble
