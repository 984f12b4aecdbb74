import FlowDouble.Context.Operation
import FlowDouble.Item
import FlowDouble.Parameters.Operation
import FlowDouble.Raised
import FlowDouble.Stream
/-! Members of values by name: what can be read, what can be assigned, what can be called. -/
namespace FlowDouble

open FlowDouble.Action

namespace Context

def own (name : String) (ps : List Parameter) : Signature := .of .context name ps

def method? : String → Option (Method Operation)
  | "is_ajax_request" => some ⟨own "is_ajax_request" [], fun _ => .isAjaxRequest⟩
  | "get_flow_execution_url" =>
    some ⟨own "get_flow_execution_url" [.required "flow_id", .required "flow_execution_key"],
      fun f => .executionUrl (f.value "flow_id") (f.value "flow_execution_key")⟩
  | "get_response_writer" => some ⟨own "get_response_writer" [], fun _ => .responseWriter⟩
  | "is_response_allowed" => some ⟨own "is_response_allowed" [], fun _ => .isResponseAllowed⟩
  | "is_response_complete" => some ⟨own "is_response_complete" [], fun _ => .isResponseComplete⟩
  | "record_response_complete" =>
    some ⟨own "record_response_complete" [], fun _ => .recordComplete⟩
  | "is_response_complete_flow_execution_redirect" =>
    some ⟨own "is_response_complete_flow_execution_redirect" [],
      fun _ => .isCompleteByExecutionRedirect⟩
  | "request_flow_execution_redirect" =>
    some ⟨own "request_flow_execution_redirect" [], fun _ => .redirectExecution⟩
  | "request_flow_definition_redirect" =>
    some ⟨own "request_flow_definition_redirect"
        [.required "flow_id", .optional "input" (some .null)],
      fun f => .redirectDefinition (f.value "flow_id") (f.value "input")⟩
  | "request_external_redirect" =>
    some ⟨own "request_external_redirect" [.required "location"],
      fun f => .redirectExternal (f.value "location")⟩
  | "request_redirect_in_popup" => some ⟨own "request_redirect_in_popup" [], fun _ => .popUp⟩
  | "put_request_parameter" =>
    some ⟨own "put_request_parameter" [.required "name", .required "value"],
      fun f => .putParameter (f.value "name") (f.value "value")⟩
  | "set_event_id" =>
    some ⟨own "set_event_id" [.required "event_id"], fun f => .setEvent (f.value "event_id")⟩
  | "is_redirect_requested" =>
    some ⟨own "is_redirect_requested" [], fun _ => .isRedirectRequested⟩
  | _ => none

def member? (name : String) : Option Operation :=
  match Setting.named? name with
  | some s => some (.setting s)
  | none => (Reading.named? name).map .reading

end Context

namespace Upload

def method? (content : Value) : String → Option (Method (Action Value))
  | "is_empty" => some ⟨.of .upload "is_empty" [], fun _ => isEmpty content⟩
  | "get_bytes" => some ⟨.of .upload "get_bytes" [], fun _ => return content⟩
  | "open" => some ⟨.of .upload "open" [], fun _ => openStream content⟩
  | _ => none

end Upload

namespace Stream

def method? (r : Nat) : String → Option (Method (Action Value))
  | "read" =>
    some ⟨.plain .stream "read" [.optional "" (some (.int (-1)))], fun f => readFrom r (f.value "")⟩
  | "write" => some ⟨.plain .stream "write" [.required ""], fun f => writeTo r (f.value "")⟩
  | "getvalue" =>
    some ⟨.plain .stream "getvalue" [], fun _ => return .bytes ((← world).stream r).content⟩
  | _ => none

end Stream

namespace Writer

def method? (r : Nat) : String → Option (Method (Action Value))
  | "write" => some ⟨.plain .writer "write" [.required ""], fun f => write r (f.value "")⟩
  | "getvalue" => some ⟨.plain .writer "getvalue" [], fun _ => text r⟩
  | _ => none

end Writer

namespace Raised

def method? (error : Value) (r : Nat) : String → Option (Method (Action Value))
  | "add_suggestion" =>
    some ⟨.of .flowError "add_suggestion" [.required "suggestion"],
      fun f => do suggest r (f.value "suggestion"); return error⟩
  | "add_debug_info" =>
    some ⟨.of .flowError "add_debug_info" [.required "key", .required "value"],
      fun f => do note r (f.value "key") (f.value "value"); return error⟩
  | _ => none

end Raised

def Method.map {α β : Type} (m : Method α) (g : α → β) : Method β :=
  ⟨m.signature, fun f => g (m.operation f)⟩

namespace Value

def appendItem (r : Nat) (v : Value) : Action Value := do
  modify fun w => w.setList r (w.list r ++ [v])
  return .null

def method? [Calls] (v : Value) (name : String) : Option (Method (Action Value)) :=
  match v with
  | .attributes _ _ backing => (Attributes.method? name).map (·.map (Attributes.perform v backing))
  | .parameters m => (ParameterMap.method? m.writable name).map (·.map m.perform)
  | .context r => (Context.method? name).map (·.map (Context.perform r))
  | .upload _ _ content _ _ => Upload.method? content name
  | .stream r => Stream.method? r name
  | .writer r => Writer.method? r name
  | .error k r => if k.under .flowError then Raised.method? v r name else none
  | .list r =>
    if name = "append" then
      some ⟨.plain .list "append" [.required ""], fun f => appendItem r (f.value "")⟩
    else none
  | _ => none

end Value

def Kind.signature? (k : Kind) (name : String) : Option Signature :=
  match k with
  | .attributes | .sharedAttributes => (Attributes.method? name).map Method.signature
  | .parameters => (ParameterMap.method? false name).map Method.signature
  | .writableParameters => (ParameterMap.method? true name).map Method.signature
  | .context => (Context.method? name).map Method.signature
  | .upload => (Upload.method? .null name).map Method.signature
  | k => if k.under .flowError then (Raised.method? .null 0 name).map Method.signature else none

def Signature.exposed (s : Signature) : Signature :=
  { s with parameters := .required receiverName :: s.parameters, receiver := .absent }

namespace Value

def hasOperation [Calls] (v : Value) (name : String) : Bool :=
  match v with
  | .kind k => (k.signature? name).isSome
  | v => (v.method? name).isSome

def carried? [Calls] (v : Value) (name : String) : Action (Option Value) := do
  match v, name with
  | .context r, name =>
    match Context.member? name with
    | some op => return some (← Context.perform r op)
    | none => return none
  | .attributes tag true _, "mutex" => return some (.lock tag)
  | .upload _ n _ _ _, "name" => return some n
  | .upload _ _ c _ _, "content" => return some c
  | .upload _ _ _ o _, "original_filename" => return some o
  | .upload _ _ _ _ t, "content_type" => return some t
  | .upload _ _ c _ _, "size" => return some (← Upload.size c)
  | .principal _ n, "name" => return some n
  | .error _ r, name => Raised.read? r name
  | _, _ => return none

/-- Where a value has nothing under a name. Some failures could have been given the member, and
what has a name of its own tells it. -/
def lacking (v : Value) (name : String) : Action Value := do
  if name = Report.nameMember then ofExcept (Report.kindName (← world) v)
  else
    match v with
    | .error k _ => if Raised.unset k name then return .null else misuse (.noMember v name)
    | v => misuse (.noMember v name)

def getMember [Calls] (v : Value) (name : String) : Action Value := do
  match ← v.carried? name, (← world).attachment? v name with
  | some x, _ | none, some x => return x
  | none, none =>
    if v.hasOperation name then return .operation (← newTag) v name else v.lacking name

def setMember [Calls] (v : Value) (name : String) (x : Value) : Action Unit := do
  match v, name with
  | .context r, name =>
    match Setting.named? name, Context.Reading.named? name with
    | some s, _ => Context.assign r s x
    | none, some _ => misuse (.readOnly .context name)
    | none, none => attach v name x
  | .attributes _ true _, "mutex" => misuse (.readOnly .sharedAttributes name)
  | .attributes .., name | .parameters _, name | .writer _, name | .stream _, name =>
    attach v name x
  | .upload .., name | .principal .., name => misuse (.frozen name)
  | .error _ r, name => Raised.assign r name x
  | .kind k, name => if k.fixed then misuse (.fixedKind k name) else attach v name x
  | v, name => if v.kindOf = .function then attach v name x else misuse (.lacks v.kindOf name)

variable [Calls]

def perform (v : Value) (name : String) (a : Arguments) : Action Value := do
  match v.method? name with
  | some m => ← ofExcept (m.request a)
  | none => misuse (.noMember v name)

def performAs (k : Kind) (s : Signature) (name : String) (a : Arguments) : Action Value := do
  match a.placed with
  | receiver :: rest =>
    let _ ← ofExcept (s.exposed.bind a)
    if receiver.isA k then receiver.perform name ⟨rest, a.named⟩
    else misuse (.noMember receiver name)
  | [] => misuse (.call s.fullName (.missing [Signature.receiverName]))

def applyOperation (owner : Value) (name : String) (a : Arguments) : Action Value :=
  match owner with
  | .kind k =>
    match k.signature? name with
    | some s => performAs k s name a
    | none => misuse (.noMember owner name)
  | owner => owner.perform name a

def call (v : Value) (name : String) (a : Arguments) : Action Value := do
  if v.hasOperation name then v.answer name a (v.applyOperation name a)
  else Calls.apply (← v.getMember name) a

end Value

end FlowDouble
