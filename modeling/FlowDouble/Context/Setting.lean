import FlowDouble.Attributes
/-! A new context, and the settings that can be assigned on one. -/
namespace FlowDouble

open FlowDouble.Action

inductive Setting where
  | contextPath | requestParameters | requestMap | sessionMap | globalSessionMap
  | applicationMap | currentUser | locale | nativeContext | nativeRequest | nativeResponse
  | ajaxRequest | responseAllowed
  deriving DecidableEq, Repr

namespace Setting

def name : Setting → String
  | contextPath => "context_path"
  | requestParameters => "request_parameter_map"
  | requestMap => "request_map"
  | sessionMap => "session_map"
  | globalSessionMap => "global_session_map"
  | applicationMap => "application_map"
  | currentUser => "current_user"
  | locale => "locale"
  | nativeContext => "native_context"
  | nativeRequest => "native_request"
  | nativeResponse => "native_response"
  | ajaxRequest => "ajax_request"
  | responseAllowed => "response_allowed"

def all : List Setting :=
  [contextPath, requestParameters, requestMap, sessionMap, globalSessionMap, applicationMap,
   currentUser, locale, nativeContext, nativeRequest, nativeResponse, ajaxRequest,
   responseAllowed]

def named? (s : String) : Option Setting := all.find? (·.name == s)

end Setting

namespace Context

variable [Calls]

def parametersOf : Value → Action ParameterMap
  | .parameters m => pure m
  | source => ParameterMap.create true source

def create (parameters : Value) : Action Nat := do
  let parameters ← parametersOf parameters
  let requestMap ← newAttributes false .null
  let sessionMap ← newAttributes true .null
  let applicationMap ← newAttributes true .null
  let nativeContext ← newToken
  let nativeRequest ← newToken
  let nativeResponse ← newToken
  let writer ← newWriter
  newContext
    { contextPath := .null
      parameters
      requestMap
      sessionMap
      globalSessionMap := sessionMap
      applicationMap
      nativeContext
      nativeRequest
      nativeResponse
      currentUser := .null
      locale := .null
      ajaxRequest := .bool false
      writer
      allowed := none
      complete := false
      executionRedirect := false
      redirectFlow := .null
      redirectInput := .null
      externalUrl := .null
      popup := false }

def change (r : Nat) (f : Context → Context) : Action Unit :=
  modify fun w => w.setContext r (f (w.context r))

def principalOf : Value → Action Value
  | .text s => return .principal (← newTag) (.text s)
  | v => return v

def overrideOf : Value → Action (Option Bool)
  | .null => return none
  | .bool b => return some b
  | v => do
    let message := "response_allowed must be True, False or None, not " ++ (← spelled v)
    refuseWith (Report.configuration (← world) (.text message) (.text "response_allowed") [])

def assign (r : Nat) (s : Setting) (v : Value) : Action Unit :=
  match s with
  | .contextPath => change r fun c => { c with contextPath := v }
  | .requestParameters => do
    let m ← parametersOf v
    change r fun c => { c with parameters := m }
  | .requestMap => change r fun c => { c with requestMap := v }
  | .sessionMap => change r fun c => { c with sessionMap := v }
  | .globalSessionMap => change r fun c => { c with globalSessionMap := v }
  | .applicationMap => change r fun c => { c with applicationMap := v }
  | .currentUser => do
    let user ← principalOf v
    change r fun c => { c with currentUser := user }
  | .locale => change r fun c => { c with locale := v }
  | .nativeContext => change r fun c => { c with nativeContext := v }
  | .nativeRequest => change r fun c => { c with nativeRequest := v }
  | .nativeResponse => change r fun c => { c with nativeResponse := v }
  | .ajaxRequest => change r fun c => { c with ajaxRequest := v }
  | .responseAllowed => do
    let allowed ← overrideOf v
    change r fun c => { c with allowed := allowed }

def setting (c : Context) : Setting → Value
  | .contextPath => c.contextPath
  | .requestParameters => .parameters c.parameters
  | .requestMap => c.requestMap
  | .sessionMap => c.sessionMap
  | .globalSessionMap => c.globalSessionMap
  | .applicationMap => c.applicationMap
  | .currentUser => c.currentUser
  | .locale => c.locale
  | .nativeContext => c.nativeContext
  | .nativeRequest => c.nativeRequest
  | .nativeResponse => c.nativeResponse
  | .ajaxRequest => c.ajaxRequest
  | .responseAllowed => .bool c.responseAllowed

end Context

end FlowDouble
