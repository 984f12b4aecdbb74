import FlowDouble.Context.Response
/-! All that can be asked of a context, as one type. -/
namespace FlowDouble.Context

inductive Reading where
  | writableParameters | writer | executionRedirect | definitionRedirect | redirectFlow
  | redirectInput | externalRedirect | externalUrl | popup
  deriving DecidableEq, Repr

def Reading.name : Reading → String
  | writableParameters => "mock_request_parameter_map"
  | writer => "mock_response_writer"
  | executionRedirect => "flow_execution_redirect_requested"
  | definitionRedirect => "flow_definition_redirect_requested"
  | redirectFlow => "flow_redirect_flow_id"
  | redirectInput => "flow_redirect_flow_input"
  | externalRedirect => "external_redirect_requested"
  | externalUrl => "external_redirect_url"
  | popup => "redirect_in_popup"

def Reading.all : List Reading :=
  [writableParameters, writer, executionRedirect, definitionRedirect, redirectFlow,
   redirectInput, externalRedirect, externalUrl, popup]

def Reading.named? (s : String) : Option Reading := all.find? (·.name == s)

inductive Operation where
  | setting (s : Setting)
  | reading (g : Reading)
  | assign (s : Setting) (v : Value)
  | isAjaxRequest
  | executionUrl (flow key : Value)
  | responseWriter
  | isResponseAllowed
  | isResponseComplete
  | recordComplete
  | isCompleteByExecutionRedirect
  | redirectExecution
  | redirectDefinition (flow input : Value)
  | redirectExternal (location : Value)
  | popUp
  | putParameter (name value : Value)
  | setEvent (event : Value)
  | isRedirectRequested
  deriving Repr

open FlowDouble.Action

def read (r : Nat) (g : Reading) : Action Value := do
  let c := (← world).context r
  match g with
  | .writableParameters => return .parameters (← Context.writableParameters r)
  | .writer => return .writer c.writer
  | .executionRedirect => return .bool c.executionRedirect
  | .definitionRedirect => return .bool c.definitionRedirect
  | .redirectFlow => return c.redirectFlow
  | .redirectInput => return c.redirectInput
  | .externalRedirect => return .bool c.externalRedirect
  | .externalUrl => return c.externalUrl
  | .popup => return .bool c.popup

def readSetting [Calls] (r : Nat) (s : Setting) : Action Value :=
  match s with
  | .responseAllowed => Context.isResponseAllowed r
  | s => do return ((← world).context r).setting s

def perform [Calls] (r : Nat) : Operation → Action Value
  | .setting s => readSetting r s
  | .reading g => read r g
  | .assign s v => yieldNothing (assign r s v)
  | .isAjaxRequest => return ((← world).context r).ajaxRequest
  | .executionUrl flow key => executionUrl flow key
  | .responseWriter => responseWriter r
  | .isResponseAllowed => return .bool ((← world).context r).responseAllowed
  | .isResponseComplete => return .bool ((← world).context r).complete
  | .recordComplete => yieldNothing (recordComplete r)
  | .isCompleteByExecutionRedirect => return .bool ((← world).context r).executionRedirect
  | .redirectExecution => yieldNothing (redirectExecution r)
  | .redirectDefinition flow input => yieldNothing (redirectDefinition r flow input)
  | .redirectExternal location => yieldNothing (redirectExternal r location)
  | .popUp => yieldNothing (popUp r)
  | .putParameter name value => yieldNothing (putParameter r name value)
  | .setEvent event => yieldNothing (setEvent r event)
  | .isRedirectRequested => return .bool ((← world).context r).redirectRequested

end FlowDouble.Context
