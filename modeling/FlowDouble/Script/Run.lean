import FlowDouble.Script.Request
/-! Running a script: every request is answered, a failed one does not end the run. -/
namespace FlowDouble.Script

open FlowDouble.Action

structure Step where
  request : Request
  bindTo : Option String
  faultTo : Option String
  deriving Repr

inductive Outcome where
  | value (s : Snapshot)
  | subject
  | handler (d : Decorated)
  | failed (s : Snapshot)
  deriving Repr

structure Answer where
  outcome : Outcome
  trail : List Record
  subject : Option Snapshot
  deriving Repr

structure Session where
  world : World := {}
  table : Table := []
  deriving Repr

def Session.bind (s : Session) (name : Option String) (v : Value) : Session :=
  match name with
  | some name => { s with table := s.table.insert name v }
  | none => s

def Session.keep (s : Session) (name : Option String) (f : Fault) : Session :=
  match name with
  | some _ =>
    match (Action.keep f).run s.world with
    | .ok v w => Session.bind { s with world := w } name v
    | .error _ w => { s with world := w }
  | none => s

def subjectOf (t : Table) : Request → Option Value
  | .about name _ | .invoke name _ => t.lookup name
  | _ => none

def handsBack : Request → Value → Bool
  -- names of kinds are texts of their own, and so is a character that is not kept once
  | .about _ .kindName, _ => false
  | .about _ (.getItem _), .text s => (Literal.text s).keptOnce
  | _, _ => true

def isSubject (t : Table) (r : Request) (v : Value) : Bool :=
  match subjectOf t r with
  | some subject => !v.isNull && subject.same v && handsBack r v
  | none => false

def shownSubject (t : Table) (w : World) (r : Request) : Option Snapshot :=
  match r with
  | .about _ q => if q.showsSubject then (subjectOf t r).map w.snapshot else none
  | _ => none

def outcomeOf (t : Table) (r : Request) (w : World) (v : Value) : Outcome :=
  match r, v with
  | .decorate .., .function f | .decorateAgain .., .function f => .handler (w.function f)
  | r, v => if isSubject t r v then .subject else .value (w.snapshot v)

def Session.answer (s : Session) (step : Step) : Answer × Session :=
  let r := step.request
  match (ask s.table r).run { s.world with trail := [] } with
  | .ok v w =>
    (⟨outcomeOf s.table r w v, w.trail, shownSubject s.table w r⟩,
      Session.bind { s with world := w } step.bindTo v)
  | .error f w =>
    (⟨.failed (w.snapshotFault f), w.trail, shownSubject s.table w r⟩,
      Session.keep { s with world := w } step.faultTo f)

def Session.answerAll (s : Session) : List Step → List Answer × Session
  | [] => ([], s)
  | step :: steps =>
    let (a, s) := s.answer step
    let (rest, s) := s.answerAll steps
    (a :: rest, s)

def Session.final (s : Session) : List (String × Snapshot) :=
  (s.table.filter fun e => e.2.kindOf != .function).map fun e => (e.1, s.world.snapshot e.2)

def run (steps : List Step) : List Answer × List (String × Snapshot) :=
  let (answers, s) := Session.answerAll {} steps
  (answers, s.final)

end FlowDouble.Script
