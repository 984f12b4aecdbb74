import FlowDouble.Report
/-! Failures kept as values: what can be read from them, added to them and put in place of it. -/
namespace FlowDouble.Raised

open FlowDouble.Action

def change (r : Nat) (f : Report → Report) : Action Unit :=
  modify fun w =>
    match w.error r with
    | .report told metadata arguments => w.setError r (.report (f told) metadata arguments)
    | .plain .. => w

def suggest (r : Nat) (suggestion : Value) : Action Unit := change r (·.suggest suggestion)

def note (r : Nat) (key value : Value) : Action Unit := do
  requireHashable key
  change r (·.note key value)

def unset (k : Kind) (member : String) : Bool :=
  k.under .missingMember && (member == "name" || member == "obj")

def readReport? (told : Report) (metadata : Value) (member : String) : Action (Option Value) :=
  match member with
  | "message" => return told.message
  | "metadata" => return metadata
  | "suggestions" => return (← newList told.suggestions)
  | "debug_info" => return (← newDictionary told.debug)
  | member => return told.diagnosis.detail? member

def read? (r : Nat) (member : String) : Action (Option Value) := do
  match member, (← world).error r with
  | "args", .report _ _ arguments | "args", .plain _ arguments => return arguments
  | member, .report told metadata _ => readReport? told metadata member
  | _, .plain .. => return none

def diagnose? (d : Diagnosis) (member : String) (v : Value) : Option Diagnosis :=
  match member, d with
  | "reason", .responseNotAllowed _ => some (.responseNotAllowed v)
  | "key", .attributeNotFound _ => some (.attributeNotFound v)
  | "key", .attributeType _ expected => some (.attributeType v expected)
  | "expected_type", .attributeType key _ => some (.attributeType key v)
  | _, _ => none

def tupleOf (v : Value) : Action Value := do
  match v with
  | .tuple .. => return v
  | v => newTuple (← elements v)

def replaceArguments (r : Nat) (v : Value) : Action Unit := do
  let arguments ← tupleOf v
  modify fun w =>
    match w.error r with
    | .report told metadata _ => w.setError r (.report told metadata arguments)
    | .plain k _ => w.setError r (.plain k arguments)

def replaceMetadata (r : Nat) (v : Value) : Action Unit :=
  modify fun w =>
    match w.error r with
    | .report told _ arguments => w.setError r (.report told v arguments)
    | .plain .. => w

def assignReport (d : Diagnosis) (r : Nat) (member : String) (v : Value) : Action Unit :=
  match member with
  | "suggestions" | "debug_info" => misuse (.readOnly d.kind member)
  | "message" => change r fun told => { told with message := v }
  | "metadata" => replaceMetadata r v
  | member =>
    match diagnose? d member v with
    | some d => change r fun told => { told with diagnosis := d }
    | none => attach (.error d.kind r) member v

def assign (r : Nat) (member : String) (v : Value) : Action Unit := do
  match member, (← world).error r with
  | "args", _ => replaceArguments r v
  | member, .report told _ _ => assignReport told.diagnosis r member v
  | member, .plain k _ => attach (.error k r) member v

end FlowDouble.Raised
