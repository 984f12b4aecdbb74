import Mathlib.Logic.Relation
import FlowDouble.Invocation
import FlowDouble.Proofs.Context.Fresh
/-! What holds of the redirects of a context in every state it reaches, also by seeding: a redirect
goes with a complete response, a popup with a redirect, an input with a flow, and nothing that was
requested is taken back. -/
namespace FlowDouble

open FlowDouble.Action

namespace Guard

structure Coherent (g : Guard) : Prop where
  completed : g.redirectRequested = true → g.complete = true
  popped : g.popup = true → g.redirectRequested = true
  inputs : g.hasInput = !g.flow.isNull

structure Advances (g g' : Guard) : Prop where
  complete : g.complete = true → g'.complete = true
  execution : g.executionRedirect = true → g'.executionRedirect = true
  definition : g.flow.isNull = false → g'.flow.isNull = false
  location : g.location.isNull = false → g'.location.isNull = false
  popup : g.popup = true → g'.popup = true

theorem coherentFresh (writer : Nat) : (fresh writer).Coherent := by
  constructor <;> simp [fresh, redirectRequested, Value.isNull]

theorem advancesRefl (g : Guard) : g.Advances g := ⟨id, id, id, id, id⟩

theorem isNullText (s : String) : (Value.text s).isNull = false := rfl

theorem coherentAfter {g : Guard} (coherent : g.Coherent) {op : Context.Operation}
    (proper : op.Proper) : (g.after op).Coherent := by
  obtain ⟨completed, popped, inputs⟩ := coherent
  cases op with
  | assign s v =>
    have kept : g.after (.assign s v) =
        { g with allowed := (g.after (.assign s v)).allowed } := by
      cases s <;> try rfl
      cases v <;> rfl
    rw [kept]
    exact ⟨completed, popped, inputs⟩
  | recordComplete => exact ⟨fun _ => rfl, popped, inputs⟩
  | redirectExecution => exact ⟨fun _ => rfl, fun _ => rfl, inputs⟩
  | redirectDefinition flow input =>
    obtain ⟨⟨s, rfl⟩, _⟩ := proper
    exact ⟨fun _ => rfl, fun _ => by simp [after, redirectRequested, isNullText], rfl⟩
  | redirectExternal location =>
    obtain ⟨s, rfl⟩ := proper
    exact ⟨fun _ => rfl, fun _ => by simp [after, redirectRequested, isNullText], inputs⟩
  | popUp =>
    refine ⟨completed, fun popup => ?_, inputs⟩
    rcases Bool.or_eq_true_iff.mp popup with old | requested
    · exact popped old
    · exact requested
  | _ => exact ⟨completed, popped, inputs⟩

theorem advancesAfter (g : Guard) {op : Context.Operation} (proper : op.Proper) :
    g.Advances (g.after op) := by
  cases op with
  | assign s v =>
    have kept : g.after (.assign s v) =
        { g with allowed := (g.after (.assign s v)).allowed } := by
      cases s <;> try rfl
      cases v <;> rfl
    rw [kept]
    exact ⟨id, id, id, id, id⟩
  | recordComplete => exact ⟨fun _ => rfl, id, id, id, id⟩
  | redirectExecution => exact ⟨fun _ => rfl, fun _ => rfl, id, id, id⟩
  | redirectDefinition flow input =>
    obtain ⟨⟨s, rfl⟩, _⟩ := proper
    exact ⟨fun _ => rfl, id, fun _ => rfl, id, id⟩
  | redirectExternal location =>
    obtain ⟨s, rfl⟩ := proper
    exact ⟨fun _ => rfl, id, id, fun _ => rfl, id⟩
  | popUp => exact ⟨id, id, id, id, fun popup => by simp [after, popup]⟩
  | _ => exact g.advancesRefl

end Guard

structure Reassigns (r : Nat) (w w' : World) : Prop where
  steady : Steady w w'
  guard : ∃ allowed, (w'.context r).guard = { (w.context r).guard with allowed }

theorem reassigns (r : Nat) : Effect (Reassigns r) where
  refl w := ⟨steady.refl w, _, rfl⟩
  trans ab bc := by
    obtain ⟨first, a, ha⟩ := ab
    obtain ⟨second, b, hb⟩ := bc
    exact ⟨steady.trans first second, b, by rw [hb, ha]⟩
  attachments h := h.steady.attachments

theorem Reassigns.ofMoves {r : Nat} {w w' : World} (moves : Moves r id w w') : Reassigns r w w' :=
  ⟨moves.steady, _, moves.guard⟩

namespace Context

inductive Step [Calls] (r : Nat) : World → World → Prop where
  | call {w} (op : Operation) (proper : op.Proper) : Step r w ((perform r op).leaves w)
  | seed {w} (fields : List (String × Value)) : Step r w ((seed r fields).leaves w)
  | elsewhere {w w'} (apart : Elsewhere r w w') : Step r w w'

def Reaches [Calls] (r : Nat) : World → World → Prop := Relation.ReflTransGen (Step r)

section
variable [Calls] {r : Nat} {w w' w₁ : World}

theorem assignReassigns (r : Nat) (s : Setting) (v : Value) :
    Within (Reassigns r) (assign r s v) := by
  by_cases override : s = .responseAllowed
  · subst override
    refine withinBind (reassigns r) (withinUnchanged (reassigns r) (readsOverride v)) fun a => ?_
    refine withinModify fun w => ?_
    by_cases known : r < w.contexts.length
    · have moves : Moves r (fun g => { g with allowed := a }) w _ :=
        .ofContext { w.context r with allowed := a } known rfl
      exact ⟨moves.steady, a, moves.guard⟩
    · rw [World.setUnknownContext known]
      exact (reassigns r).refl w
  · exact withinMono Reassigns.ofMoves (assignStays override v)

theorem seedFieldReassigns (r : Nat) (name : String) (value : Value) :
    Within (Reassigns r) (seedField r name value) := by
  have filling {a : Action Unit} (h : Within OnlyParameters a) : Within (Reassigns r) a :=
    withinMono Reassigns.ofMoves (staysFilling h)
  unfold seedField
  split
  · exact assignReassigns r _ value
  · exact filling (withinForItems onlyParameters value (askToPutFills r))
  · exact filling (askToSignalFills r value)
  · refine withinUnchanged (reassigns r) ?_
    exact withinBind unchanged (withinWorld unchanged) fun _ => readsRefusal _

theorem seedReassigns (r : Nat) (fields : List (String × Value)) :
    Within (Reassigns r) (seed r fields) := by
  have all : Within (Reassigns r) (seedAll r fields) := by
    induction fields with
    | nil => exact withinPure (reassigns r) ()
    | cons field rest ih =>
      exact withinBind (reassigns r) (seedFieldReassigns r field.1 field.2) fun _ => ih
  refine withinBind (reassigns r) ?_ fun _ => all
  exact withinIte _ (withinThrow (reassigns r) _) (withinPure (reassigns r) _)

theorem stepReady (step : Step r w w') (ready : Ready r w) : Ready r w' := by
  cases step with
  | call op proper =>
    exact ready.steady (performMoves ready.plain ready.sound ready.known proper).steady
  | seed fields => exact ready.steady (seedReassigns r fields w ready.plain).steady
  | elsewhere apart => exact ready.elsewhere apart

theorem stepCoherent (step : Step r w w') (ready : Ready r w)
    (coherent : (w.context r).guard.Coherent) : (w'.context r).guard.Coherent := by
  cases step with
  | call op proper =>
    rw [(performMoves ready.plain ready.sound ready.known proper).guard]
    exact Guard.coherentAfter coherent proper
  | seed fields =>
    obtain ⟨allowed, moved⟩ := (seedReassigns r fields w ready.plain).guard
    rw [moved]
    exact ⟨coherent.completed, coherent.popped, coherent.inputs⟩
  | elsewhere apart => exact apart.guard ▸ coherent

theorem stepAdvances (step : Step r w w') (ready : Ready r w) :
    (w.context r).guard.Advances (w'.context r).guard := by
  cases step with
  | call op proper =>
    rw [(performMoves ready.plain ready.sound ready.known proper).guard]
    exact Guard.advancesAfter _ proper
  | seed fields =>
    obtain ⟨allowed, moved⟩ := (seedReassigns r fields w ready.plain).guard
    rw [moved]
    exact ⟨id, id, id, id, id⟩
  | elsewhere apart => exact apart.guard ▸ Guard.advancesRefl _

theorem reachedCoherent (steps : Reaches r w₁ w) (ready : Ready r w₁)
    (coherent : (w₁.context r).guard.Coherent) :
    Ready r w ∧ (w.context r).guard.Coherent := by
  induction steps with
  | refl => exact ⟨ready, coherent⟩
  | tail steps step ih =>
    obtain ⟨before, held⟩ := ih
    exact ⟨stepReady step before, stepCoherent step before held⟩

def Affirms (r : Nat) (w : World) (op : Operation) : Prop := perform r op w = .ok (.bool true) w

def Denies (r : Nat) (w : World) (op : Operation) : Prop := perform r op w = .ok .null w

def lasting : List Operation :=
  [.isResponseComplete, .reading .executionRedirect, .reading .definitionRedirect,
   .reading .externalRedirect, .reading .popup]

theorem affirmsIff {op : Operation} {b : Bool} (reads : perform r op w = .ok (.bool b) w) :
    Affirms r w op ↔ b = true := by
  unfold Affirms
  rw [reads]
  simp

theorem deniesIff {op : Operation} {v : Value} (reads : perform r op w = .ok v w) :
    Denies r w op ↔ v.isNull = true := by
  unfold Denies
  rw [reads]
  cases v <;> simp [Value.isNull]

theorem lastingAdvances (advances : (w.context r).guard.Advances (w'.context r).guard)
    {op : Operation} (last : op ∈ lasting) (affirms : Affirms r w op) : Affirms r w' op := by
  have shown {f : World → Bool} (reads : ∀ w, perform r op w = .ok (.bool (f w)) w)
      (kept : f w = true → f w' = true) : Affirms r w' op :=
    (affirmsIff (reads w')).mpr (kept ((affirmsIff (reads w)).mp affirms))
  have present {v v' : Value} (kept : v.isNull = false → v'.isNull = false) :
      (!v.isNull) = true → (!v'.isNull) = true := by simpa using kept
  simp only [lasting, List.mem_cons, List.not_mem_nil, or_false] at last
  rcases last with rfl | rfl | rfl | rfl | rfl
  · exact shown (fun _ => rfl) advances.complete
  · exact shown (fun _ => rfl) advances.execution
  · exact shown (fun _ => rfl) (present advances.definition)
  · exact shown (fun _ => rfl) (present advances.location)
  · exact shown (fun _ => rfl) advances.popup

/-- However a context was made and whatever was done with it: a redirect goes with a complete
response, a popup with a redirect and an input with a flow, and no further step takes back what
was recorded. -/
theorem redirectsStayConsistent {source : Value} {w₀ : World} (plain : w₀.Plain)
    (sound : w₀.Sound) (made : create source w₀ = .ok r w₁) (steps : Reaches r w₁ w) :
    (Affirms r w .isRedirectRequested → Affirms r w .isResponseComplete) ∧
    (Affirms r w .isCompleteByExecutionRedirect → Affirms r w .isResponseComplete) ∧
    (Affirms r w (.reading .popup) → Affirms r w .isRedirectRequested) ∧
    (Denies r w (.reading .redirectFlow) ↔ Denies r w (.reading .redirectInput)) ∧
    (∀ w', Step r w w' → ∀ op ∈ lasting, Affirms r w op → Affirms r w' op) := by
  have fresh : (w₁.context r).guard.Coherent := (createdFresh made).2 ▸ Guard.coherentFresh _
  obtain ⟨ready, coherent⟩ := reachedCoherent steps (Ready.made plain sound made) fresh
  have complete : Affirms r w .isResponseComplete ↔ _ := affirmsIff rfl
  have requested : Affirms r w .isRedirectRequested ↔ _ := affirmsIff rfl
  have execution : Affirms r w .isCompleteByExecutionRedirect ↔ _ := affirmsIff rfl
  have popup : Affirms r w (.reading .popup) ↔ _ := affirmsIff rfl
  have flow : Denies r w (.reading .redirectFlow) ↔ _ := deniesIff rfl
  have input : Denies r w (.reading .redirectInput) ↔ _ := deniesIff rfl
  rw [complete, requested, execution, popup, flow, input]
  refine ⟨coherent.completed, fun h => coherent.completed ?_, coherent.popped, ?_, ?_⟩
  · have executed : (w.context r).guard.executionRedirect = true := h
    simp only [Guard.redirectRequested, executed, Bool.true_or]
  · have same : (!(w.context r).redirectInput.isNull) = !(w.context r).redirectFlow.isNull :=
      coherent.inputs
    rw [Bool.not_inj same]
  · intro w' step op last affirms
    exact lastingAdvances (stepAdvances step ready) last affirms

end

theorem popupAfterRedirectStays :
    ∃ w₁ w, create .null {} = .ok 0 w₁ ∧ Reaches 0 w₁ w ∧
      Affirms 0 w (.reading .popup) ∧ Affirms 0 w .isResponseComplete ∧
      ∀ fields, Affirms 0 ((seed 0 fields).leaves w) (.reading .popup) := by
  have sound : World.Sound {} := by
    intro es mem
    contradiction
  obtain ⟨w₁, made⟩ : ∃ w₁, create .null {} = .ok 0 w₁ := ⟨_, rfl⟩
  obtain ⟨w, steps, popup⟩ : ∃ w, Reaches 0 w₁ w ∧ Affirms 0 w (.reading .popup) := by
    have early : Reaches 0 w₁ _ := .single (.call .popUp trivial)
    have redirected := early.tail (.call (.redirectExternal (.text "/x")) ⟨_, rfl⟩)
    refine ⟨_, redirected.tail (.call .popUp trivial), ?_⟩
    cases made
    rfl
  obtain ⟨completed, _, popped, _, lasts⟩ :=
    redirectsStayConsistent World.emptyPlain sound made steps
  refine ⟨w₁, w, made, steps, popup, completed (popped popup), fun fields => ?_⟩
  exact lasts _ (.seed fields) _ (by simp [lasting]) popup

end Context

end FlowDouble
