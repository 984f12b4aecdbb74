import FlowDouble.Invocation
import FlowDouble.Proofs.Context.Fresh
/-! Who may write the response, told by the history of a context alone: by the last override it
took, by whether anything completed the response, and by the redirects ever requested. -/
namespace FlowDouble

open FlowDouble.Action

def Action.succeeds {α : Type} (a : Action α) (w : World) : Bool :=
  match a w with
  | .ok .. => true
  | .error .. => false

namespace Context

structure Call where
  operation : Operation
  done : Bool

inductive Run [Calls] (r : Nat) (w : World) : List Call → World → Prop where
  | start : Run r w [] w
  | call {calls w'} (run : Run r w calls w') (op : Operation) (proper : op.Proper) :
      Run r w (calls ++ [⟨op, (perform r op).succeeds w'⟩]) ((perform r op).leaves w')
  | elsewhere {calls w' w''} (run : Run r w calls w') (apart : Elsewhere r w' w'') :
      Run r w calls w''

namespace Call

def override? : Call → Option Value
  | ⟨.assign .responseAllowed v, true⟩ => some v
  | _ => none

def completes : Call → Bool
  | ⟨.recordComplete, _⟩ | ⟨.redirectExecution, _⟩ | ⟨.redirectDefinition .., _⟩
  | ⟨.redirectExternal _, _⟩ => true
  | _ => false

def redirectsExecution : Call → Bool
  | ⟨.redirectExecution, _⟩ => true
  | _ => false

def flow? : Call → Option Value
  | ⟨.redirectDefinition flow _, _⟩ => some flow
  | _ => none

def location? : Call → Option Value
  | ⟨.redirectExternal location, _⟩ => some location
  | _ => none

end Call

def lastOverride (calls : List Call) : Value := (calls.filterMap Call.override?).getLast?.getD .null

def lastFlow? (calls : List Call) : Option Value := (calls.filterMap Call.flow?).getLast?

def lastLocation? (calls : List Call) : Option Value := (calls.filterMap Call.location?).getLast?

def allowedAfter (calls : List Call) : Value :=
  let override := lastOverride calls
  if override.isNull then .bool (!calls.any Call.completes) else override

inductive Ground where
  | execution
  | definition (flow : Value)
  | external (location : Value)
  | complete
  | override

namespace Ground

def reason : Ground → String
  | execution => "flow_execution_redirect"
  | definition _ => "flow_definition_redirect"
  | external _ => "external_redirect"
  | complete => "response_complete"
  | override => "not_allowed"

def details : Ground → Entries
  | definition flow => [(.text "flow_id", flow)]
  | external location => [(.text "location", location)]
  | _ => []

end Ground

def ground (calls : List Call) : Ground :=
  if calls.any Call.redirectsExecution then .execution
  else
    match lastFlow? calls, lastLocation? calls with
    | some flow, _ => .definition flow
    | none, some location => .external location
    | none, none => if calls.any Call.completes then .complete else .override

def overrideValue : Option Bool → Value
  | none => .null
  | some b => .bool b

structure Tells (calls : List Call) (g : Guard) : Prop where
  override : overrideValue g.allowed = lastOverride calls
  complete : g.complete = calls.any Call.completes
  execution : g.executionRedirect = calls.any Call.redirectsExecution
  flow : g.flow = (lastFlow? calls).getD .null
  flowTold : g.flow.isNull = (lastFlow? calls).isNone
  location : g.location = (lastLocation? calls).getD .null
  locationTold : g.location.isNull = (lastLocation? calls).isNone

theorem tellsFresh (writer : Nat) : Tells [] (.fresh writer) := ⟨rfl, rfl, rfl, rfl, rfl, rfl, rfl⟩

section
variable (calls : List Call) (c : Call)

theorem lastOverrideNext :
    lastOverride (calls ++ [c]) = c.override?.getD (lastOverride calls) := by
  unfold lastOverride
  rw [List.filterMap_append]
  cases h : c.override? <;> simp [h]

theorem lastFlowNext : lastFlow? (calls ++ [c]) = c.flow?.or (lastFlow? calls) := by
  unfold lastFlow?
  rw [List.filterMap_append]
  cases h : c.flow? <;> simp [h]

theorem lastLocationNext :
    lastLocation? (calls ++ [c]) = c.location?.or (lastLocation? calls) := by
  unfold lastLocation?
  rw [List.filterMap_append]
  cases h : c.location? <;> simp [h]

end

theorem assignSucceeds [Calls] {r : Nat} {v : Value} (w : World) :
    (perform r (.assign .responseAllowed v)).succeeds w = isOverride v := by
  cases accepted : isOverride v with
  | true => cases v <;> first | contradiction | rfl
  | false =>
    obtain ⟨f, refused⟩ := refusesOverride accepted w
    have failed : perform r (.assign .responseAllowed v) w = .error f w :=
      bindError (bindError refused)
    unfold Action.succeeds
    rw [failed]

theorem tellsAfter {calls : List Call} {g g' : Guard} {c : Call} (tells : Tells calls g)
    (override : overrideValue g'.allowed = c.override?.getD (overrideValue g.allowed))
    (complete : g'.complete = (g.complete || c.completes))
    (execution : g'.executionRedirect = (g.executionRedirect || c.redirectsExecution))
    (flow : g'.flow = c.flow?.getD g.flow) (flowTold : ∀ v ∈ c.flow?, v.isNull = false)
    (location : g'.location = c.location?.getD g.location)
    (locationTold : ∀ v ∈ c.location?, v.isNull = false) : Tells (calls ++ [c]) g' where
  override := by rw [override, tells.override, lastOverrideNext]
  complete := by rw [complete, tells.complete]; simp
  execution := by rw [execution, tells.execution]; simp
  flow := by
    rw [flow, tells.flow, lastFlowNext]
    cases c.flow? <;> rfl
  flowTold := by
    rw [flow, lastFlowNext]
    cases h : c.flow? with
    | none => exact tells.flowTold
    | some v => simpa using flowTold v (by simp [h])
  location := by
    rw [location, tells.location, lastLocationNext]
    cases c.location? <;> rfl
  locationTold := by
    rw [location, lastLocationNext]
    cases h : c.location? with
    | none => exact tells.locationTold
    | some v => simpa using locationTold v (by simp [h])

theorem tellsNext [Calls] {r : Nat} {calls : List Call} {g : Guard} (tells : Tells calls g)
    {op : Operation} (proper : op.Proper) (w : World) :
    Tells (calls ++ [⟨op, (perform r op).succeeds w⟩]) (g.after op) := by
  have nothing : ∀ v ∈ (none : Option Value), v.isNull = false := by simp
  have kept (b : Bool) : b = (b || false) := (Bool.or_false b).symm
  have set (b : Bool) : true = (b || true) := (Bool.or_true b).symm
  cases op with
  | assign s v =>
    cases s with
    | responseAllowed =>
      rw [assignSucceeds]
      cases v <;> exact tellsAfter tells rfl (kept _) (kept _) rfl nothing rfl nothing
    | _ => exact tellsAfter tells rfl (kept _) (kept _) rfl nothing rfl nothing
  | recordComplete => exact tellsAfter tells rfl (set _) (kept _) rfl nothing rfl nothing
  | redirectExecution => exact tellsAfter tells rfl (set _) (set _) rfl nothing rfl nothing
  | redirectDefinition flow input =>
    obtain ⟨⟨s, rfl⟩, _⟩ := proper
    have text : ∀ v ∈ some (Value.text s), v.isNull = false := by simp [Value.isNull]
    exact tellsAfter tells rfl (set _) (kept _) rfl text rfl nothing
  | redirectExternal location =>
    obtain ⟨s, rfl⟩ := proper
    have text : ∀ v ∈ some (Value.text s), v.isNull = false := by simp [Value.isNull]
    exact tellsAfter tells rfl (set _) (kept _) rfl nothing rfl text
  | _ => exact tellsAfter tells rfl (kept _) (kept _) rfl nothing rfl nothing

section
variable [Calls] {r : Nat} {w₁ w : World} {calls : List Call}

theorem runReady (run : Run r w₁ calls w) (ready : Ready r w₁) : Ready r w := by
  induction run with
  | start => exact ready
  | call run op proper before =>
    exact before.steady (performMoves before.plain before.sound before.known proper).steady
  | elsewhere run apart before => exact before.elsewhere apart

theorem runTells (run : Run r w₁ calls w) (ready : Ready r w₁)
    (fresh : (w₁.context r).guard = .fresh (w₁.context r).writer) :
    Tells calls (w.context r).guard ∧ (w.context r).writer = (w₁.context r).writer := by
  induction run with
  | start => exact ⟨fresh ▸ tellsFresh _, rfl⟩
  | @call calls w run op proper ih =>
    have before := runReady run ready
    have moved := (performMoves before.plain before.sound before.known proper).guard
    obtain ⟨tells, writer⟩ := ih
    refine ⟨moved ▸ tellsNext tells proper w, ?_⟩
    have kept : ((w.context r).guard.after op).writer = (w.context r).guard.writer := by
      unfold Guard.after
      split <;> rfl
    exact ((congrArg Guard.writer moved).trans kept).trans writer
  | elsewhere run apart ih =>
    obtain ⟨tells, writer⟩ := ih
    exact ⟨apart.guard ▸ tells, (congrArg Guard.writer apart.guard).trans writer⟩

omit [Calls] in
theorem tellsAllowed {c : Context} (tells : Tells calls c.guard) :
    .bool c.responseAllowed = allowedAfter calls := by
  have override : overrideValue c.allowed = lastOverride calls := tells.override
  have complete : c.complete = calls.any Call.completes := tells.complete
  unfold allowedAfter responseAllowed
  rw [← override, ← complete]
  cases c.allowed <;> rfl

omit [Calls] in
theorem tellsRefusal {c : Context} (tells : Tells calls c.guard) :
    c.refusal.diagnosis = .responseNotAllowed (.text (ground calls).reason) ∧
      c.refusal.metadata =
        (.text "reason", .text (ground calls).reason) :: (ground calls).details := by
  have complete : c.complete = calls.any Call.completes := tells.complete
  have execution : c.executionRedirect = calls.any Call.redirectsExecution := tells.execution
  have flow : c.redirectFlow = (lastFlow? calls).getD .null := tells.flow
  have flowTold : c.redirectFlow.isNull = (lastFlow? calls).isNone := tells.flowTold
  have location : c.externalUrl = (lastLocation? calls).getD .null := tells.location
  have locationTold : c.externalUrl.isNull = (lastLocation? calls).isNone := tells.locationTold
  unfold refusal ground definitionRedirect externalRedirect
  rw [execution, complete, flowTold, locationTold, flow, location]
  cases calls.any Call.redirectsExecution with
  | true => exact ⟨rfl, rfl⟩
  | false =>
    cases lastFlow? calls with
    | some flow => exact ⟨rfl, rfl⟩
    | none =>
      cases lastLocation? calls with
      | some location => exact ⟨rfl, rfl⟩
      | none => cases calls.any Call.completes <;> exact ⟨rfl, rfl⟩

theorem writesIfAllowed (plain : w.Plain) :
    responseWriter r w =
      if (w.context r).responseAllowed then .ok (.writer (w.context r).writer) w
      else .error (.report (w.context r).refusal) w := by
  unfold responseWriter
  rw [bindOk (asksAllowed plain), bindOk (truthOfBool _ w), worldBind]
  split <;> rfl

/-- After any run of a context the history alone tells whether the response is allowed, the writer
is handed out just then, and a refusal says why. -/
theorem writerGuardTellsHistory {source : Value} {w₀ : World} (plain : w₀.Plain)
    (sound : w₀.Sound) (made : create source w₀ = .ok r w₁) (run : Run r w₁ calls w) :
    perform r .isResponseAllowed w = .ok (allowedAfter calls) w ∧
    perform r (.reading .writer) w = .ok (.writer (w₁.context r).writer) w ∧
    (perform r .responseWriter w = .ok (.writer (w₁.context r).writer) w ↔
      allowedAfter calls = .bool true) ∧
    (allowedAfter calls ≠ .bool true →
      ∃ report, perform r .responseWriter w = .error (.report report) w ∧
        report.diagnosis = .responseNotAllowed (.text (ground calls).reason) ∧
        report.metadata =
          (.text "reason", .text (ground calls).reason) :: (ground calls).details) := by
  have ready := Ready.made plain sound made
  obtain ⟨tells, writer⟩ := runTells run ready (createdFresh made).2
  have writes := writesIfAllowed (r := r) (runReady run ready).plain
  have allowed := tellsAllowed tells
  rw [← allowed, ← writer]
  refine ⟨rfl, rfl, ?_, ?_⟩
  · change responseWriter r w = _ ↔ _
    rw [writes]
    cases (w.context r).responseAllowed <;> simp
  · intro refused
    refine ⟨(w.context r).refusal, ?_, tellsRefusal tells⟩
    change responseWriter r w = _
    rw [writes]
    cases h : (w.context r).responseAllowed with
    | true => exact absurd (congrArg Value.bool h) refused
    | false => rfl

end

theorem refusesAfterBothRedirects :
    ∃ w₁ calls w, create .null {} = .ok 0 w₁ ∧ Run 0 w₁ calls w ∧
      calls.map Call.done = [true, true, true, false, true] ∧
      ∃ report, perform 0 .responseWriter w = .error (.report report) w ∧
        report.diagnosis = .responseNotAllowed (.text "flow_definition_redirect") ∧
        report.metadata =
          [(.text "reason", .text "flow_definition_redirect"), (.text "flow_id", .text "f")] := by
  have sound : World.Sound {} := by
    intro es mem
    contradiction
  obtain ⟨w₁, made⟩ : ∃ w₁, create .null {} = .ok 0 w₁ := ⟨_, rfl⟩
  have run := ((((Run.start (r := 0) (w := w₁)).call (.redirectExternal (.text "/x")) ⟨_, rfl⟩).call
    (.assign .responseAllowed (.bool true)) trivial).call
    (.redirectDefinition (.text "f") .null) ⟨⟨_, rfl⟩, .inl rfl⟩).call
    (.assign .responseAllowed (.int 1)) trivial |>.call (.assign .responseAllowed .null) trivial
  refine ⟨w₁, _, _, made, run, ?_,
    (writerGuardTellsHistory World.emptyPlain sound made run).2.2.2 ?_⟩
  · cases made
    rfl
  · cases made
    change Value.bool false ≠ .bool true
    simp

end Context

end FlowDouble
