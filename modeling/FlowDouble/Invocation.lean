import FlowDouble.Member
import FlowDouble.Seeding
/-! Calling values. Every layer around a handler seeds the context it is called with, or puts a new
one in front; the handler then runs with all the values and asks its context by name. -/
namespace FlowDouble

open FlowDouble.Action

namespace Task

def parameters : Task → List Parameter
  | echo => [.required "ctx", .rest "args", .named "kwargs"]
  | state | fail => [.required "ctx"]
  | url => [.required "ctx", .required "flow_id", .optional "key" (some (.text "k"))]
  | redirect => [.required "ctx", .required "location", .optional "popup" (some (.bool false))]
  | write => [.required "ctx", .required "text"]
  | page => [.required "ctx", .optional "default" (some .null)]
  | remember => [.required "ctx", .required "key", .required "value"]
  | bare => []

def run [Calls] (f : Frame) (t : Task) : Action Value := do
  let ctx := f.value "ctx"
  match t with
  | echo =>
    let rest ← newTuple f.rest
    let named ← newDictionary (namedEntries f.named)
    newTuple [.text ctx.kindOf.name, rest, named]
  | state => return ctx
  | url => ctx.call "get_flow_execution_url" ⟨[f.value "flow_id", f.value "key"], []⟩
  | redirect =>
    let _ ← ctx.call "request_external_redirect" ⟨[f.value "location"], []⟩
    if ← truthy (f.value "popup") then
      let _ ← ctx.call "request_redirect_in_popup" ⟨[], []⟩
    return ctx
  | write => (← ctx.call "get_response_writer" ⟨[], []⟩).call "write" ⟨[f.value "text"], []⟩
  | page =>
    (← ctx.getMember "request_parameter_map").call "get_number"
      ⟨[.text "page"], [("default", f.value "default")]⟩
  | remember =>
    (← ctx.getMember "session_map").call "put" ⟨[f.value "key", f.value "value"], []⟩
  | fail => misuse (.told .wrongValue "boom")
  | bare => return .text "bare"

end Task

def Handler.signature (h : Handler) : Signature :=
  { owner := "", name := h.name, parameters := h.task.parameters, receiver := .absent }

namespace Decorated

/-- What stacked layers show of the parameters inside. Each layer hides the first parameter that
what it wraps shows. -/
def visible (layers : List (List (String × Value))) (parameters : List Parameter) :
    List Parameter := layers.foldr (fun _ shown => shown.tail) parameters

def signature (d : Decorated) : List Parameter := visible d.layers d.handler.task.parameters

variable [Calls]

def prepare (fields : List (String × Value)) (placed : List Value) : Action (List Value) := do
  match placed with
  | .context r :: _ =>
    Context.seed r fields
    return placed
  | _ =>
    let r ← Context.create .null
    Context.seed r fields
    return .context r :: placed

def prepareAll : List (List (String × Value)) → List Value → Action (List Value)
  | [], placed => return placed
  | fields :: layers, placed => do prepareAll layers (← prepare fields placed)

def invoke (d : Decorated) (a : Arguments) : Action Value := do
  let placed ← prepareAll d.layers a.placed
  let frame ← ofExcept (d.handler.signature.bind ⟨placed, a.named⟩)
  d.handler.task.run frame

end Decorated

def callDepth : Nat := 200

namespace Value

def applyWithin : Nat → Value → Arguments → Action Value
  | 0, _, _ => misuse (.told .tooDeep "maximum recursion depth exceeded")
  | n + 1, v, a => do
    let _ : Calls := ⟨fun v a => applyWithin n v a⟩
    match v with
    | .function r =>
      let d := (← world).function r
      if d.handler.awaited then newPending else d.invoke a
    | .operation _ owner name => owner.applyOperation name a
    | v => v.applyPlain a

instance : Calls := ⟨applyWithin callDepth⟩

def apply (v : Value) (a : Arguments) : Action Value := Calls.apply v a

def invoke (v : Value) (a : Arguments) : Action Value := do
  match v with
  | .function r => ((← world).function r).invoke a
  | v => v.apply a

end Value

end FlowDouble
