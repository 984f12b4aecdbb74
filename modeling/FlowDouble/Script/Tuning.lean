import FlowDouble.Logging
import FlowDouble.Script.Request
/-! Scripts that tune what is let through of the trail. -/
namespace FlowDouble.Script

open FlowDouble.Action

inductive Tuning where
  | environment (value : Option String)
  | wished
  | configure (level : Literal)
  | redirect (location : Literal)
  | constants
  deriving Repr

inductive Tuned where
  | nothing
  | text (s : String)
  | lines (ss : List String)
  | failed (s : Snapshot)
  deriving Repr

def version : String := "0.1.0"

def constants : List String :=
  [Context.eventParameter, executionAddress.text, recordFormat, levelVariable, defaultLevelName,
   version]

def redirectTrail (location : Literal) : Action Unit := do
  let r ← Context.create .null
  Context.redirectExternal r (← location.build fun _ => none)

def tune (l : Logging) : Tuning → Tuned × Logging
  | .environment value => (.nothing, { l with environment := value })
  | .wished => (.text l.wished, l)
  | .configure level =>
    match (level.build fun _ => none).run {} with
    | .ok v w =>
      match l.configure v with
      | (.ok (), l) => (.nothing, l)
      | (.error f, l) => (.failed (w.snapshotFault f), l)
    | .error f w => (.failed (w.snapshotFault f), l)
  | .redirect location =>
    match (redirectTrail location).run {} with
    | .ok _ w => (.lines (if l.passes then w.trail.map Record.line else []), l)
    | .error f w => (.failed (w.snapshotFault f), l)
  | .constants => (.lines constants, l)

def tuneAll (l : Logging) : List Tuning → List (Tuned × Logging)
  | [] => []
  | t :: ts => let out := tune l t; out :: tuneAll out.2 ts

end FlowDouble.Script
