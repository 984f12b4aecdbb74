import FlowDouble.Context.Response
import FlowDouble.Text.Similarity
/-! Seeding a context from named fields, in the order given, up to the first that fails. -/
namespace FlowDouble

open FlowDouble.Action

inductive Field where
  | setting (s : Setting)
  | parameters
  | event
  deriving DecidableEq, Repr

namespace Field

def name : Field → String
  | setting s => s.name
  | parameters => "parameters"
  | event => "event_id"

def all : List Field :=
  [setting .ajaxRequest, setting .applicationMap, setting .contextPath, setting .currentUser,
   event, setting .globalSessionMap, setting .locale, setting .nativeContext,
   setting .nativeRequest, setting .nativeResponse, parameters, setting .requestMap,
   setting .requestParameters, setting .responseAllowed, setting .sessionMap]

theorem everyField (f : Field) : f ∈ all := by
  cases f with
  | setting s => cases s <;> decide
  | parameters => decide
  | event => decide

def named? (s : String) : Option Field := all.find? (·.name == s)

end Field

def settableFields : List String := Field.all.map Field.name

def unknownField (w : World) (name : String) : Except Fault Report := do
  let report ← Report.configuration w
    (.text (Kind.context.name ++ " has no settable field '" ++ name ++ "'")) (.text name) []
  match Text.closest name settableFields with
  | some close =>
    return report.suggest (.text ("Use '" ++ close ++ "' instead of '" ++ name ++ "'"))
  | none => return report

namespace Context

variable [Calls]

def seedField (r : Nat) (name : String) (value : Value) : Action Unit := do
  match Field.named? name with
  | some (.setting s) => assign r s value
  | some .parameters => value.forItems (askToPut r)
  | some .event => askToSignal r value
  | none => refuseWith (unknownField (← world) name)

def seedAll (r : Nat) : List (String × Value) → Action Unit
  | [] => return ()
  | (name, value) :: rest => do
    seedField r name value
    seedAll r rest

def reservedField : String := "ctx"

def checkReserved (fields : List (String × Value)) : Action Unit :=
  if fields.any (·.1 == reservedField) then
    misuse (.call "seed_context" (.givenTwice reservedField))
  else return ()

def seed (r : Nat) (fields : List (String × Value)) : Action Unit := do
  checkReserved fields
  seedAll r fields

end Context

end FlowDouble
