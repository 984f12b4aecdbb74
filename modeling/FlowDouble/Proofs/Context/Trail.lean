import FlowDouble.Invocation
import FlowDouble.Proofs.Context.Conduct
/-! The trail tells the run. What was asked successfully is there in order, nothing else is, and it
tells whether the response is complete and whether the redirect goes to a popup. -/
namespace FlowDouble.Context

open FlowDouble.Action

def Operation.Worded : Operation → Prop
  | .redirectDefinition flow _ => ∃ s, flow = .text s
  | .redirectExternal location => ∃ s, location = .text s
  | _ => True

def Operation.emits (op : Operation) : List Record :=
  match op.named with
  | .text s => op.records s
  | _ => op.records ""

def Operation.completes : Operation → Bool
  | .recordComplete | .redirectExecution | .redirectDefinition .. | .redirectExternal _ => true
  | _ => false

namespace Event

def Worded : Event → Prop
  | asked op _ => op.Worded
  | _ => True

def records : Event → List Record
  | asked op (some _) => op.emits
  | _ => []

def completes : Event → Bool
  | asked op (some _) => op.completes
  | _ => false

end Event

def emitted (events : List Event) : List Record := events.flatMap Event.records

theorem emittedNext (events : List Event) (e : Event) :
    emitted (events ++ [e]) = emitted events ++ e.records := by
  simp [emitted]

theorem emitsEmitted {op : Operation} (worded : op.Worded) {records : List Record}
    (admitted : op.Emitted records) : records = op.emits := by
  obtain ⟨written, same, rfl⟩ := admitted
  cases op with
  | redirectDefinition flow input =>
    obtain ⟨s, rfl⟩ := worded
    rw [same s rfl]
    rfl
  | redirectExternal location =>
    obtain ⟨s, rfl⟩ := worded
    rw [same s rfl]
    rfl
  | _ => rfl

theorem emitsComplete {op : Operation} (worded : op.Worded) :
    op.emits.count .complete = if op.completes then 1 else 0 := by
  cases op with
  | redirectDefinition flow input =>
    obtain ⟨s, rfl⟩ := worded
    simp [Operation.emits, Operation.named, Operation.records, Operation.completes]
  | redirectExternal location =>
    obtain ⟨s, rfl⟩ := worded
    simp [Operation.emits, Operation.named, Operation.records, Operation.completes]
  | _ => rfl

theorem completionsCounted {events : List Event} (worded : ∀ e ∈ events, e.Worded) :
    (emitted events).count .complete = events.countP Event.completes := by
  induction events with
  | nil => rfl
  | cons e rest ih =>
    have one : e.records.count .complete = if e.completes then 1 else 0 := by
      cases e with
      | asked op answer =>
        cases answer with
        | some v => exact emitsComplete (worded _ List.mem_cons_self)
        | none => rfl
      | _ => rfl
    have later := ih fun d mem => worded d (List.mem_cons_of_mem _ mem)
    have split : emitted (e :: rest) = e.records ++ emitted rest := List.flatMap_cons
    rw [split, List.count_append, one, later, List.countP_cons, Nat.add_comm]

section
variable [Calls] {r n : Nat} {w w₀ w₁ : World} {events : List Event}

theorem performTells (stands : Standing r n events w) {op : Operation} (worded : op.Worded) :
    match perform r op w with
    | .ok _ w' => Emits r op.emits w w'
    | .error _ w' => Silent r w w' := by
  have ended := performEnds r op w stands.plain stands.known
  cases h : perform r op w with
  | ok v w' =>
    rw [h] at ended
    obtain ⟨records, admitted, emits⟩ := ended
    exact emitsEmitted worded admitted ▸ emits
  | error f w' =>
    rw [h] at ended
    exact ended

theorem askedEmits (stands : Standing r n events w) {op : Operation} (worded : op.Worded) :
    Emits r (Event.asked op ((perform r op).answer? w)).records w ((perform r op).leaves w) := by
  have tells := performTells stands worded
  unfold Action.answer?
  cases h : perform r op w with
  | ok v w' =>
    rw [h] at tells
    exact leavesOk h ▸ tells
  | error f w' =>
    rw [h] at tells
    exact leavesError h ▸ tells

structure Tracked (r : Nat) (w₁ : World) (events : List Event) (w : World) : Prop where
  trail : w.trail = w₁.trail ++ emitted events
  marks : (w.context r).marks = (w₁.context r).marks.after (emitted events)

omit [Calls] in
theorem Tracked.next {w' : World} {e : Event} (tracked : Tracked r w₁ events w)
    (emits : Emits r e.records w w') : Tracked r w₁ (events ++ [e]) w' where
  trail := by rw [emits.trail, tracked.trail, emittedNext, List.append_assoc]
  marks := by rw [emits.marks, tracked.marks, emittedNext, Marks.afterAppend]

theorem conductTracked (conduct : Conduct r w₁ events w) (stands : Standing r n [] w₁)
    (worded : ∀ e ∈ events, e.Worded) : Tracked r w₁ events w := by
  induction conduct with
  | start => exact ⟨(List.append_nil _).symm, by simp [emitted, Marks.after]⟩
  | asked before op ih =>
    have earlier := ih fun e mem => worded e (List.mem_append_left _ mem)
    have own : op.Worded := worded _ (List.mem_append_right _ List.mem_cons_self)
    exact earlier.next (askedEmits (conductStands before stands) own)
  | seeded before fields ih =>
    have earlier := ih fun e mem => worded e (List.mem_append_left _ mem)
    exact earlier.next (seedSilent r fields _ (conductStands before stands).plain)
  | used before use calm ih =>
    have earlier := ih fun e mem => worded e (List.mem_append_left _ mem)
    have plain := (conductStands before stands).plain
    exact earlier.next (use.within (silent r) Emits.ofThrough calm _ plain)
  | @wrote events w before handle value held ih =>
    have earlier := ih fun e mem => worded e (List.mem_append_left _ mem)
    have nothing : emitted (events ++ [.wrote handle value]) = emitted events := by
      rw [emittedNext]
      exact List.append_nil _
    obtain rfl := (conductStands before stands).handles handle held
    rcases wroteLeaves n value w with same | ⟨s, _, written⟩
    · rw [same]
      exact ⟨nothing ▸ earlier.trail, nothing ▸ earlier.marks⟩
    · rw [written]
      exact ⟨nothing ▸ earlier.trail, nothing ▸ earlier.marks⟩
  | apart before apart ih =>
    have earlier := ih worded
    exact ⟨apart.trail.trans earlier.trail, apart.marks.trans earlier.marks⟩

/-- Whatever is done around a context from its making on: the trail holds what the successful requests
emitted, in order, and nothing else. The response is complete just when that was recorded, the redirect
goes to a popup just when that was, and completions are as many as the requests that complete. A failed
request emits nothing, nor do seeding and maps, save what a converter emits that a map calls. -/
theorem trailTellsRun {source : Value} (plain : w₀.Plain) (made : create source w₀ = .ok r w₁)
    (conduct : Conduct r w₁ events w) (worded : ∀ e ∈ events, e.Worded) :
    w₁.trail = w₀.trail ∧
    w.trail = w₁.trail ++ emitted events ∧
    perform r .isResponseComplete w = .ok (.bool ((emitted events).contains .complete)) w ∧
    perform r (.reading .popup) w = .ok (.bool ((emitted events).contains .popup)) w ∧
    (emitted events).count .complete = events.countP Event.completes ∧
    (∀ op : Operation, op.Worded → match perform r op w with
      | .ok _ w' => w'.trail = w.trail ++ op.emits
      | .error _ w' => w'.trail = w.trail) ∧
    (∀ fields, ((seed r fields).leaves w).trail = w.trail) ∧
    (∀ use : Use, use.Calm (Silent r) → (use.act.leaves w).trail = w.trail) ∧
    (∀ (m : ParameterMap) name converter default,
      ((m.getNumber name converter default).leaves w).trail =
        ((m.consult name converter).leaves w).trail) := by
  obtain ⟨_, _, trail, marks, _⟩ := createdBlank plain made
  have stands := createdStands plain made
  have standing := conductStands conduct stands
  have tracked := conductTracked conduct stands worded
  have after := tracked.marks
  rw [marks] at after
  have complete : (w.context r).complete = (emitted events).contains .complete :=
    congrArg Marks.complete after
  have popup : (w.context r).popup = (emitted events).contains .popup := congrArg Marks.popup after
  have still {w' : World} (silence : Silent r w w') : w'.trail = w.trail := by
    rw [silence.trail, List.append_nil]
  refine ⟨trail, tracked.trail, ?_, ?_, completionsCounted worded, fun op worded => ?_,
    fun fields => still (seedSilent r fields w standing.plain), fun use calm => ?_,
    fun m name converter default => by rw [m.getNumberLeaves]⟩
  · rw [← complete]
    rfl
  · rw [← popup]
    rfl
  · have tells := performTells standing worded
    cases h : perform r op w with
    | ok v w' =>
      rw [h] at tells
      exact tells.trail
    | error f w' =>
      rw [h] at tells
      exact still tells
  · exact still (use.within (silent r) Emits.ofThrough calm w standing.plain)

end

theorem refusedRequestsLeaveNoRecord :
    ∃ w₁ events w, create .null {} = .ok 0 w₁ ∧ Conduct 0 w₁ events w ∧
      (events.filter fun e => e.records.isEmpty).length = 4 ∧
      w.trail = [.externalRedirect "/x", .complete, .popup, .complete] ∧
      perform 0 (.reading .popup) w = .ok (.bool true) w ∧ events.countP Event.completes = 2 := by
  obtain ⟨w₁, made⟩ : ∃ w₁, create .null {} = .ok 0 w₁ := ⟨_, rfl⟩
  let read : Use := .parameters ⟨true, 0⟩ (.getNumber (.text "page") (.kind .int) (.int 1))
  have calm : read.Calm (Silent 0) :=
    Use.alone (silent 0) (fun _ => .ofAside rfl rfl rfl rfl) fun _ called => by cases called; rfl
  have conduct := ((((((Conduct.start (r := 0) (w := w₁)).asked .popUp).asked
    (.redirectExternal (.text "/x"))).asked .popUp).asked
    (.redirectDefinition (.text "f") (.int 7))).seeded [("locale", .text "de")] |>.used read calm).asked
    .recordComplete
  obtain ⟨_, trail, _, popup, completions, _⟩ :=
    trailTellsRun World.emptyPlain made conduct (by
      simp only [List.nil_append, List.cons_append, List.mem_cons, List.not_mem_nil, or_false]
      rintro e (rfl | rfl | rfl | rfl | rfl | rfl | rfl) <;> first | exact ⟨_, rfl⟩ | trivial)
  refine ⟨w₁, _, _, made, conduct, ?_, trail.trans ?_, popup.trans ?_, completions.symm.trans ?_⟩
  all_goals cases made
  all_goals rfl

end FlowDouble.Context
