import FlowDouble.Parameters.Entry
import FlowDouble.Text.CharSet
import FlowDouble.Text.LetterCase
/-! Reading parameters. All readers go by the first value under a name, as the map answers it. -/
namespace FlowDouble.ParameterMap

open FlowDouble.Action

def first (stored : Option Value) (default : Value) : Value :=
  match stored with
  | none => default
  | some (.tuple _ []) => default
  | some (.tuple _ (v :: _)) => v
  | some v => v

def find (m : ParameterMap) (name : Value) : Action (Option Value) := do
  requireHashable name
  return ((← world).parameters m).find? name

def get (m : ParameterMap) (name default : Value) : Action Value :=
  return first (← m.find name) default

def askFor [Calls] (m : ParameterMap) (name : Value) : Action Value :=
  (Value.parameters m).answer "get" ⟨[name], []⟩ (m.get name .null)

def getRequired [Calls] (m : ParameterMap) (name : Value) : Action Value := do
  let value ← m.askFor name
  if value.isNull then
    let message := "Required request parameter '" ++ (← shown name) ++ "' is not present"
    let report ← ofExcept (Report.attributeNotFound (← world) (.text message) name [])
    refuse (report.suggest
      (.text ("Seed it with put_request_parameter(" ++ (← spelled name) ++ ", ...)")))
  else return value

def getArray (m : ParameterMap) (name : Value) : Action Value := do
  match ← m.find name with
  | none => newList []
  | some (.tuple _ vs) => newList vs
  | some v => newList [v]

def getUpload [Calls] (m : ParameterMap) (name : Value) : Action Value := do
  let value ← m.askFor name
  if value.isNull || value.isUpload then return value
  else
    refuseType ("Request parameter '" ++ (← shown name) ++ "' is not a multipart file")
      name (.kind .upload) value

def getRequiredUpload [Calls] (m : ParameterMap) (name : Value) : Action Value := do
  let value ← (Value.parameters m).answer "get_multipart_file" ⟨[name], []⟩ (m.getUpload name)
  if value.isNull then
    refuseMissing ("Required multipart file '" ++ (← shown name) ++ "' is not present") name []
  else return value

def trueWords : List String := ["true", "on", "yes", "1"]

def falseWords : List String := ["false", "off", "no", "0"]

def readBoolean (s : String) : Option Bool :=
  let word := String.ofList (Text.lower (Text.trim s.toList))
  if trueWords.contains word then some true
  else if falseWords.contains word then some false
  else none

def getBoolean [Calls] (m : ParameterMap) (name default : Value) : Action Value := do
  let value ← m.askFor name
  if value.isNull then return default
  else
    let answer := match value with
      | .text s => readBoolean s
      | _ => none
    match answer with
    | some b => return .bool b
    | none =>
      refuseType ("Request parameter '" ++ (← shown name) ++ "' is not a boolean value")
        name (.kind .bool) value

def listed : Entries → Action Entries
  | [] => return []
  | (name, .tuple _ vs) :: rest => do
    let vs ← newList vs
    return (name, vs) :: (← listed rest)
  | e :: rest => return e :: (← listed rest)

def toDictionary (m : ParameterMap) : Action Value := do
  newDictionary (← listed ((← world).parameters m))

end FlowDouble.ParameterMap
