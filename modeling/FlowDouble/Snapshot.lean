import FlowDouble.Copying
/-! A value with all it refers to written out, as it is at one moment. What values answer for the
purpose is asked of the world as it is, and leaves it as it is. -/
namespace FlowDouble

inductive Form where
  | dictionary
  | attributes (shared : Bool)
  | parameters (writable : Bool)
  deriving DecidableEq, Repr

/-- What is compared by identity keeps its reference or tag beside its content. A view is a map that
answers for its entries in ways that need not agree: what it shows, what it tells as a dictionary,
and a dictionary of the items it lists. What a value fails to tell is untold. -/
inductive Snapshot where
  | null
  | bool (b : Bool)
  | int (n : Int)
  | float (tag : Nat) (word : UInt64)
  | text (s : String)
  | bytes (bs : List UInt8)
  | list (items : List Snapshot)
  | tuple (items : List Snapshot)
  | mapping (form : Form) (entries : List (Snapshot × Snapshot))
  | view (self : Value) (form : Form) (items : List (Snapshot × Snapshot)) (told listed : Snapshot)
  | untold (f : Fault)
  | upload (name content originalName contentType : Snapshot)
  | principal (name : Snapshot)
  | context (ref : Nat) (complete : Bool) (members : List (String × Snapshot))
  | writer (ref : Nat) (text : String)
  | stream (ref : Nat) (content : List UInt8)
  | report (ref : Nat) (kind : Kind) (message metadata : Snapshot)
      (debug : List (Snapshot × Snapshot)) (suggestions arguments : List Snapshot)
      (extra : List (String × Snapshot)) (cause : Option Kind)
  | fault (ref : Nat) (kind : Kind) (arguments : List Snapshot)
  | token (tag : Nat)
  | lock (tag : Nat)
  | kind (k : Kind)
  | converter (c : Converter)
  | function (ref : Nat)
  | operation (kind : Kind) (owner : Value) (name : String)
  | facet (tag : Nat) (facet : Facet) (map : Snapshot) (parts : List Snapshot)
  | pending (tag : Nat)
  deriving Repr, Inhabited

def Form.kind : Form → Kind
  | dictionary => .dictionary
  | attributes shared => if shared then .sharedAttributes else .attributes
  | parameters writable => if writable then .writableParameters else .parameters

def Snapshot.kindOf : Snapshot → Kind
  | null => .null
  | bool _ => .bool
  | int _ => .int
  | float .. => .float
  | text _ => .text
  | bytes _ => .bytes
  | list _ => .list
  | tuple _ => .tuple
  | mapping form _ | view _ form .. => form.kind
  | untold f => f.kind
  | upload .. => .upload
  | principal _ => .principal
  | context .. => .context
  | writer .. => .writer
  | stream .. => .stream
  | report _ k .. | fault _ k _ => k
  | token _ => .object
  | lock _ => .lock
  | kind k => k.kindOf
  | converter .length => .builtin
  | converter _ | function _ => .function
  | operation k .. => k
  | facet _ f .. => f.kind
  | pending _ => .pendingCall

structure Resolver where
  list : Nat → List Snapshot
  parts : Nat → Facet → Value → List Snapshot
  map : Value → Snapshot
  context : Nat → Snapshot
  written : Nat → String
  stream : Nat → List UInt8
  error : Nat → Snapshot

def Resolver.empty : Resolver where
  list _ := []
  parts _ _ _ := []
  map _ := .mapping .dictionary []
  context r := .context r false []
  written _ := ""
  stream _ := []
  error _ := .null

mutual

def Value.snapshot (o : Resolver) : Value → Snapshot
  | .null => .null
  | .bool b => .bool b
  | .int n => .int n
  | .float t w => .float t w
  | .text s => .text s
  | .bytes bs => .bytes bs
  | .tuple _ items => .tuple (snapshots o items)
  | .upload _ n c r t => .upload (n.snapshot o) (c.snapshot o) (r.snapshot o) (t.snapshot o)
  | .principal _ n => .principal (n.snapshot o)
  | .attributes tag shared backing => o.map (.attributes tag shared backing)
  | .parameters m => o.map (.parameters m)
  | .list r => .list (o.list r)
  | .dictionary r => o.map (.dictionary r)
  | .context r => o.context r
  | .writer r => .writer r (o.written r)
  | .stream r => .stream r (o.stream r)
  | .error _ r => o.error r
  | .token t => .token t
  | .lock t => .lock t
  | .kind k => .kind k
  | .converter c => .converter c
  | .function r => .function r
  | .operation _ owner name => .operation owner.operationKind owner name
  | .facet tag f map => .facet tag f (map.snapshot o) (o.parts tag f map)
  | .pending t => .pending t

def Value.snapshots (o : Resolver) : List Value → List Snapshot
  | [] => []
  | v :: vs => v.snapshot o :: snapshots o vs

end

def Entries.snapshot (o : Resolver) (es : Entries) : List (Snapshot × Snapshot) :=
  es.map fun e => (e.1.snapshot o, e.2.snapshot o)

def Context.members (c : Context) (o : Resolver) (allowed complete redirect : Snapshot) :
    List (String × Snapshot) :=
  [("context_path", c.contextPath.snapshot o),
   ("request_parameter_map", (Value.parameters c.parameters).snapshot o),
   ("request_map", c.requestMap.snapshot o),
   ("session_map", c.sessionMap.snapshot o),
   ("global_session_map",
    if c.globalSessionMap.same c.sessionMap then .text "session_map"
    else c.globalSessionMap.snapshot o),
   ("application_map", c.applicationMap.snapshot o),
   ("native_context", c.nativeContext.snapshot o),
   ("native_request", c.nativeRequest.snapshot o),
   ("native_response", c.nativeResponse.snapshot o),
   ("current_user", c.currentUser.snapshot o),
   ("locale", c.locale.snapshot o),
   ("ajax_request", c.ajaxRequest.snapshot o),
   ("response_allowed", allowed),
   ("response_complete", complete),
   ("redirect_requested", redirect),
   ("flow_execution_redirect_requested", .bool c.executionRedirect),
   ("flow_definition_redirect_requested", .bool c.definitionRedirect),
   ("flow_redirect_flow_id", c.redirectFlow.snapshot o),
   ("flow_redirect_flow_input", c.redirectInput.snapshot o),
   ("external_redirect_requested", .bool c.externalRedirect),
   ("external_redirect_url", c.externalUrl.snapshot o),
   ("redirect_in_popup", .bool c.popup),
   ("mock_response_writer", (Value.writer c.writer).snapshot o)]

def detailNames : List String := ["key", "reason", "expected_type"]

def Diagnosis.detail? (d : Diagnosis) (member : String) : Option Value :=
  match member, d with
  | "reason", .responseNotAllowed reason => some reason
  | "key", .attributeNotFound key => some key
  | "key", .attributeType key _ => some key
  | "expected_type", .attributeType _ expected => some expected
  | _, _ => none

def World.detail? (w : World) (d : Diagnosis) (ref : Nat) (member : String) : Option Value :=
  (d.detail? member).or (w.attachment? (.error d.kind ref) member)

def World.details (w : World) (d : Diagnosis) (ref : Nat) (o : Resolver) :
    List (String × Snapshot) :=
  detailNames.filterMap fun name =>
    (w.detail? d ref name).map fun v => (name, v.snapshot o)

def World.snapshotReport (w : World) (r : Report) (ref : Nat) (metadata : Snapshot)
    (arguments : List Value) (o : Resolver) : Snapshot :=
  .report ref r.diagnosis.kind (r.message.snapshot o) metadata (r.debug.snapshot o)
    (Value.snapshots o r.suggestions) (Value.snapshots o arguments) (w.details r.diagnosis ref o)
    (r.cause.map Fault.kind)

def Action.tell (a : Action Value) (w : World) (next : World → Resolver) : Snapshot :=
  match a.run w with
  | .ok (.dictionary r) w => .mapping .dictionary (Entries.snapshot (next w) (w.dictionary r))
  | .ok v w => v.snapshot (next w)
  | .error f _ => .untold f

def Value.form : Value → Form
  | .attributes _ shared _ => .attributes shared
  | .parameters m => .parameters m.writable
  | _ => .dictionary

namespace World

variable [Calls]

def snapshotMap (w : World) (v : Value) (next : World → Resolver) : Snapshot :=
  let items := Entries.snapshot (next w) (w.items v).items
  if w.tellsEntries v then .mapping v.form items
  else .view v v.form items (Action.tell v.told w next) (Action.tell v.listing w next)

def snapshotContext (w : World) (r : Nat) (next : World → Resolver) : Snapshot :=
  let c := w.context r
  .context r c.complete (c.members (next w) (Action.tell (Context.isResponseAllowed r) w next)
    (Action.tell (Context.isResponseComplete r) w next)
    (Action.tell (Context.isRedirectRequested r) w next))

def snapshotRaised (w : World) (ref : Nat) (o : Resolver) : Snapshot :=
  match w.error ref with
  | .report r metadata arguments =>
    w.snapshotReport r ref (metadata.snapshot o) arguments.parts o
  | .plain k arguments => .fault ref k (Value.snapshots o arguments.parts)

def toldText (w : World) (r : Nat) : String :=
  let text := String.join (w.written r)
  match ((Value.writer r).answer "getvalue" ⟨[], []⟩ (return .text text)).run w with
  | .ok (.text s) _ => s
  | _ => text

def toldContent (w : World) (r : Nat) : List UInt8 :=
  let content := (w.stream r).content
  match ((Value.stream r).answer "getvalue" ⟨[], []⟩ (return .bytes content)).run w with
  | .ok (.bytes bs) _ => bs
  | _ => content

def resolver : Nat → World → Resolver
  | 0, _ => .empty
  | n + 1, w =>
    { list := fun r => Value.snapshots (resolver n w) (w.list r)
      parts := fun tag f map =>
        Value.snapshots (resolver n w) ((w.facetElements? tag map f).getD [])
      map := fun v => w.snapshotMap v (resolver n)
      context := fun r => w.snapshotContext r (resolver n)
      written := w.toldText
      stream := w.toldContent
      error := fun r => w.snapshotRaised r (resolver n w) }

def snapshot (w : World) (v : Value) : Snapshot := v.snapshot (resolver (w.reach + 1) w)

def snapshotFault (w : World) (f : Fault) : Snapshot :=
  let o := resolver (w.reach + 1) w
  match f with
  | .report r =>
    w.snapshotReport r w.errors.length (.mapping .dictionary (r.metadata.snapshot o)) [r.message] o
  | f => .fault w.errors.length f.kind (Value.snapshots o f.arguments)

end World

end FlowDouble
