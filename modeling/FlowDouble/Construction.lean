import FlowDouble.Context.Setting
import FlowDouble.Contract
import FlowDouble.Signature
/-! Making things of a kind from the values of a call. -/
namespace FlowDouble

open FlowDouble.Action

namespace Kind

def maker (k : Kind) (ps : List Parameter) : Signature := .of k "__init__" ps

def maker? : Kind → Option Signature
  | attributes => some (maker .attributes [.optional "backing" (some .null)])
  | sharedAttributes => some (maker .sharedAttributes [.optional "backing" (some .null)])
  | parameters | writableParameters =>
    some (maker .parameters [.optional "parameters" (some .null)])
  | upload =>
    some (maker .upload
      [.required "name", .optional "content" (some (.bytes [])),
        .optional "original_filename" (some (.text "")), .optional "content_type" (some .null)])
  | principal => some (maker .principal [.required "name"])
  | context => some (maker .context [.optional "request_parameter_map" (some .null)])
  | flowError | illegalState => some (maker .flowError [.required "message", .named "metadata"])
  | redirectNotRequested =>
    some (maker .redirectNotRequested [.optional "message" (some .null), .named "metadata"])
  | responseNotAllowed =>
    some (maker .responseNotAllowed
      [.required "message", .required "reason", .named "metadata"])
  | configuration =>
    some (maker .configuration
      [.required "message", .optional "field" (some .null), .named "metadata"])
  | attributeNotFound =>
    some (maker .attributeNotFound
      [.required "message", .optional "key" (some .null), .named "metadata"])
  | attributeType =>
    some (maker .attributeType
      [.required "message", .optional "key" (some .null),
        .optional "expected_type" (some .null), .optional "value" (some .null),
        .named "metadata"])
  | _ => none

def report? (k : Kind) (w : World) (f : Frame) : Option (Except Fault Report) :=
  let message := f.value "message"
  let metadata := namedEntries f.named
  match k with
  | flowError => some (.ok (.general message metadata))
  | illegalState => some (.ok (.illegalState message metadata))
  | redirectNotRequested => some (Report.redirectNotRequested w message metadata)
  | responseNotAllowed => some (.ok (.responseNotAllowed message (f.value "reason") metadata))
  | configuration => some (Report.configuration w message (f.value "field") metadata)
  | attributeNotFound => some (Report.attributeNotFound w message (f.value "key") metadata)
  | attributeType =>
    some (Report.attributeType w message (f.value "key") (f.value "expected_type")
      (f.value "value") metadata)
  | _ => none

def refuseMaking (k : Kind) (words : String) : Action Value :=
  misuse (.told .wrongType (k.name ++ words))

variable [Calls]

def makeFrom (k : Kind) (f : Frame) : Action Value := do
  match k with
  | attributes => newAttributes false (f.value "backing")
  | sharedAttributes => newAttributes true (f.value "backing")
  | parameters => return .parameters (← ParameterMap.create false (f.value "parameters"))
  | writableParameters => return .parameters (← ParameterMap.create true (f.value "parameters"))
  | upload =>
    return .upload (← newTag) (f.value "name") (f.value "content")
      (f.value "original_filename") (f.value "content_type")
  | principal => return .principal (← newTag) (f.value "name")
  | context => return .context (← Context.create (f.value "request_parameter_map"))
  | k =>
    match k.report? (← world) f with
    | some report => keep (.report (← ofExcept report))
    | none => k.refuseMaking "() cannot be made"

def plainFailures : List Kind :=
  [exception, lookup, missingKey, wrongType, wrongValue, wrongState, missingMember]

def failureNames : Kind → List String
  | missingMember => ["name", "obj"]
  | _ => []

def makeFailure (k : Kind) (a : Arguments) : Action Value := do
  let known := k.failureNames
  match known, a.named.find? fun v => !known.contains v.1 with
  | [], some _ => misuse (.call k.name .noneNamed)
  | _, some (name, _) => misuse (.call k.name (.invalid name))
  | _, none =>
    let e ← newError k (.plain k (← newTuple a.placed))
    attachAll e a.named
    return e

def openMembers : Kind → List String
  | contract => FlowDouble.contract.map Member.name
  | mapping => ["__getitem__", "__iter__", "__len__"]
  | mutableMapping => ["__delitem__", "__getitem__", "__iter__", "__len__", "__setitem__"]
  | sequence => ["__getitem__", "__len__"]
  | _ => []

def makeBare (k : Kind) (a : Arguments) : Action Value :=
  let given := !(a.placed.isEmpty && a.named.isEmpty)
  match k, given with
  | null, false => return .null
  | null, true => k.refuseMaking " takes no arguments"
  | object, false => newToken
  | k, true => k.refuseMaking "() takes no arguments"
  | k, false =>
    misuse (.told .wrongType ("Can't instantiate abstract class " ++ k.name ++
      " with abstract methods " ++ commaJoined k.openMembers))

def make (k : Kind) (a : Arguments) : Action Value := do
  match k.maker? with
  | some s => k.makeFrom (← ofExcept (s.bind a))
  | none => if plainFailures.contains k then k.makeFailure a else k.makeBare a

end Kind

end FlowDouble
