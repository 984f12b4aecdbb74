/-! What a flow may rely on in its surroundings, member by member. -/
namespace FlowDouble

inductive Member where
  | property (name : String)
  | method (name : String) (parameters : List String)
  deriving DecidableEq, Repr

def Member.name : Member → String
  | property name => name
  | method name _ => name

def contract : List Member :=
  [.property "application_map",
   .property "context_path",
   .property "current_user",
   .method "get_flow_execution_url" ["flow_id", "flow_execution_key"],
   .method "get_response_writer" [],
   .property "global_session_map",
   .method "is_ajax_request" [],
   .method "is_response_allowed" [],
   .method "is_response_complete" [],
   .method "is_response_complete_flow_execution_redirect" [],
   .property "locale",
   .property "native_context",
   .property "native_request",
   .property "native_response",
   .method "record_response_complete" [],
   .method "request_external_redirect" ["location"],
   .method "request_flow_definition_redirect" ["flow_id", "input"],
   .method "request_flow_execution_redirect" [],
   .property "request_map",
   .property "request_parameter_map",
   .method "request_redirect_in_popup" [],
   .property "session_map"]

end FlowDouble
