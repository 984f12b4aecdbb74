import FlowDouble.Value
/-! What the surroundings of a flow hold while it runs: where the application lives, the
request, the maps of attributes, and the state of the response. It leaves a trail of what was requested
of it, in order. -/
namespace FlowDouble

structure Context where
  contextPath : Value
  parameters : ParameterMap
  requestMap : Value
  sessionMap : Value
  globalSessionMap : Value
  applicationMap : Value
  nativeContext : Value
  nativeRequest : Value
  nativeResponse : Value
  currentUser : Value
  locale : Value
  ajaxRequest : Value
  writer : Nat
  allowed : Option Bool
  complete : Bool
  executionRedirect : Bool
  redirectFlow : Value
  redirectInput : Value
  externalUrl : Value
  popup : Bool
  deriving Repr, Inhabited

namespace Context

def responseAllowed (c : Context) : Bool := c.allowed.getD (!c.complete)

def definitionRedirect (c : Context) : Bool := !c.redirectFlow.isNull

def externalRedirect (c : Context) : Bool := !c.externalUrl.isNull

def redirectRequested (c : Context) : Bool :=
  c.executionRedirect || c.definitionRedirect || c.externalRedirect

end Context

inductive Record where
  | complete
  | executionRedirect
  | definitionRedirect (flow : String)
  | externalRedirect (location : String)
  | popup
  deriving DecidableEq, Repr

def Record.message : Record → String
  | complete => "Response recorded as complete"
  | executionRedirect => "Flow execution redirect requested"
  | definitionRedirect flow => "Flow definition redirect requested to '" ++ flow ++ "'"
  | externalRedirect location => "External redirect requested to '" ++ location ++ "'"
  | popup => "Redirect will be issued from a popup"

def Record.line (r : Record) : String := "DEBUG flowtest.mock " ++ r.message

end FlowDouble
