import FlowDouble.Proofs.Context.Settings
import FlowDouble.Proofs.Uses.Maps
/-! What every operation of a context adds to the trail, and what it leaves of the writer. An operation
that fails has added nothing: what can fail comes before the first record. -/
namespace FlowDouble

open FlowDouble.Action

structure Marks where
  writer : Nat
  complete : Bool
  popup : Bool

def Marks.after (m : Marks) (records : List Record) : Marks where
  writer := m.writer
  complete := m.complete || records.contains .complete
  popup := m.popup || records.contains .popup

theorem Marks.afterAppend (m : Marks) (first second : List Record) :
    m.after (first ++ second) = (m.after first).after second := by
  simp [after, Bool.or_assoc]

def Context.marks (c : Context) : Marks := ⟨c.writer, c.complete, c.popup⟩

structure Emits (r : Nat) (records : List Record) (w w' : World) : Prop where
  attachments : w'.attachments = w.attachments
  contexts : w.contexts.length ≤ w'.contexts.length
  writers : w'.writers = w.writers
  trail : w'.trail = w.trail ++ records
  marks : (w'.context r).marks = (w.context r).marks.after records

def Silent (r : Nat) : World → World → Prop := Emits r []

namespace Emits

variable {r : Nat} {first second : List Record} {w w' w'' : World}

theorem trans (before : Emits r first w w') (after : Emits r second w' w'') :
    Emits r (first ++ second) w w'' where
  attachments := after.attachments.trans before.attachments
  contexts := Nat.le_trans before.contexts after.contexts
  writers := after.writers.trans before.writers
  trail := by rw [after.trail, before.trail, List.append_assoc]
  marks := by rw [after.marks, before.marks, Marks.afterAppend]

theorem ofAside (attachments : w'.attachments = w.attachments)
    (contexts : w'.contexts = w.contexts) (writers : w'.writers = w.writers)
    (trail : w'.trail = w.trail) : Silent r w w' where
  attachments := attachments
  contexts := Nat.le_of_eq (congrArg List.length contexts.symm)
  writers := writers
  trail := by rw [trail, List.append_nil]
  marks := by simp [World.context, contexts, Marks.after, Context.marks]

theorem ofThrough {root : Value} (h : Through root w w') : Silent r w w' :=
  ofAside h.attachments h.contexts h.writers h.trail

theorem ofOnlyParameters (only : OnlyParameters w w') : Silent r w w' := by
  rw [only]
  exact ofAside rfl rfl rfl rfl

theorem ofContext {c : Context} (marks : c.marks = (w.context r).marks) :
    Silent r w (w.setContext r c) := by
  by_cases known : r < w.contexts.length
  · refine ⟨rfl, Nat.le_of_eq (Heap.writeKeepsLength _ _ _).symm, rfl, (List.append_nil _).symm, ?_⟩
    simp only [World.context, World.setContext, Heap.readWritten c known]
    rw [marks]
    simp [Marks.after, World.context]
  · rw [World.setUnknownContext known]
    exact ofAside rfl rfl rfl rfl

theorem ofMarked {c : Context} {record : Record} (known : r < w.contexts.length)
    (marks : c.marks = (w.context r).marks.after [record]) :
    Emits r [record] w { w.setContext r c with trail := w.trail ++ [record] } where
  attachments := rfl
  contexts := Nat.le_of_eq (Heap.writeKeepsLength _ _ _).symm
  writers := rfl
  trail := rfl
  marks := by
    simp only [World.context, World.setContext, Heap.readWritten c known]
    exact marks

end Emits

theorem silent (r : Nat) : Effect (Silent r) where
  refl _ := .ofAside rfl rfl rfl rfl
  trans ab bc := Emits.trans ab bc
  attachments h := h.attachments

namespace Action

variable {α β : Type} {r : Nat} {P : List Record → Prop}

def Ends (r : Nat) (P : List Record → Prop) (a : Action α) : Prop :=
  ∀ w, w.Plain → r < w.contexts.length →
    match a w with
    | .ok _ w' => ∃ records, P records ∧ Emits r records w w'
    | .error _ w' => Silent r w w'

theorem endsWithin {a : Action α} (within : Within (Silent r) a) : Ends r (· = []) a := by
  intro w plain _
  have silence := within w plain
  cases h : a w with
  | ok v w' => exact ⟨[], rfl, leavesOk h ▸ silence⟩
  | error f w' => exact leavesError h ▸ silence

theorem endsBind {a : Action α} {f : α → Action β} (first : Within (Silent r) a)
    (next : ∀ v, Ends r P (f v)) : Ends r P (a >>= f) := by
  intro w plain known
  have before := first w plain
  cases h : a w with
  | error e w' =>
    rw [bindError h]
    exact leavesError h ▸ before
  | ok v w' =>
    rw [leavesOk h] at before
    have after := next v w' (World.plainKept before.attachments plain)
      (Nat.lt_of_lt_of_le known before.contexts)
    rw [bindOk h]
    cases k : f v w' with
    | ok u w'' =>
      rw [k] at after
      obtain ⟨records, admitted, emits⟩ := after
      exact ⟨records, admitted, before.trans emits⟩
    | error e w'' =>
      rw [k] at after
      exact before.trans after

theorem endsMono {Q : List Record → Prop} (h : ∀ {records}, P records → Q records)
    {a : Action α} (ends : Ends r P a) : Ends r Q a := by
  intro w plain known
  have ended := ends w plain known
  cases k : a w with
  | ok v w' =>
    rw [k] at ended
    obtain ⟨records, admitted, emits⟩ := ended
    exact ⟨records, h admitted, emits⟩
  | error f w' =>
    rw [k] at ended
    exact ended

theorem endsYield {a : Action Unit} (ends : Ends r P a) : Ends r P (yieldNothing a) := by
  intro w plain known
  have ended := ends w plain known
  unfold yieldNothing
  cases h : a w with
  | ok v w' =>
    rw [h] at ended
    rw [bindOk h]
    exact ended
  | error f w' =>
    rw [h] at ended
    rw [bindError h]
    exact ended

theorem silentReading {a : Action α} (h : Within Unchanged a) : Within (Silent r) a :=
  withinUnchanged (silent r) h

theorem silentThrough {root : Value} {a : Action α} (h : Within (Through root) a) :
    Within (Silent r) a := withinMono Emits.ofThrough h

theorem silentChange {change : Context → Context} (kept : ∀ c, (change c).marks = c.marks) :
    Within (Silent r) (Context.change r change) := withinModify fun _ => .ofContext (kept _)

end Action

namespace Context

variable [Calls] {r : Nat} {w : World}

omit [Calls] in
theorem settlesSilent (r : Nat) : Settling r (Silent r) where
  effect := silent r
  filling := Emits.ofOnlyParameters
  changing kept := .ofContext (congrArg (fun q : Requests => Marks.mk q.writer q.complete q.popup) kept)

theorem seedSilent (r : Nat) (fields : List (String × Value)) :
    Within (Silent r) (seed r fields) := seedWithin (settlesSilent r) fields

def marked (r : Nat) (c : Context) (record : Record) (w : World) : World :=
  { w.setContext r c with trail := w.trail ++ [record] }

omit [Calls] in
theorem completing (known : r < w.contexts.length) :
    recordComplete r w = .ok () (marked r { w.context r with complete := true } .complete w) ∧
      Emits r [.complete] w (marked r { w.context r with complete := true } .complete w) :=
  ⟨rfl, .ofMarked known (by simp [Marks.after, marks])⟩

theorem asksToComplete (plain : w.Plain) (known : r < w.contexts.length) :
    ∃ w', askToComplete r w = .ok () w' ∧ Emits r [.complete] w w' := by
  obtain ⟨done, emits⟩ := completing known
  refine ⟨_, ?_, emits⟩
  have own : yieldNothing (recordComplete r) w = .ok .null _ := bindOk done
  unfold askToComplete
  rw [bindOk (((Value.context r).answerUnhidden (plain _ _ (by decide)) _ _).trans own)]
  rfl

theorem redirectEnds {entry : Record} (other : ∀ m : Marks, m.after [entry] = m) :
    Ends r (· = [entry, .complete]) (do record entry; askToComplete r) := by
  intro w plain known
  let w₁ : World := { w with trail := w.trail ++ [entry] }
  have first : Emits r [entry] w w₁ := ⟨rfl, Nat.le_refl _, rfl, rfl, (other _).symm⟩
  obtain ⟨w₂, done, completed⟩ := asksToComplete (r := r) (w := w₁) plain known
  have recorded : record entry w = .ok () w₁ := rfl
  rw [bindOk recorded, done]
  exact ⟨_, rfl, first.trans completed⟩

def Operation.named : Operation → Value
  | .redirectDefinition flow _ => flow
  | .redirectExternal location => location
  | _ => .null

def Operation.records (written : String) : Operation → List Record
  | .recordComplete => [.complete]
  | .redirectExecution => [.executionRedirect, .complete]
  | .redirectDefinition .. => [.definitionRedirect written, .complete]
  | .redirectExternal _ => [.externalRedirect written, .complete]
  | .popUp => [.popup]
  | _ => []

def Operation.Emitted (op : Operation) (records : List Record) : Prop :=
  ∃ written, (∀ s, op.named = .text s → written = s) ∧ records = op.records written

theorem shownEnds {P : List Record → Prop} {v : Value} {f : String → Action Unit}
    (next : ∀ written, (∀ s, v = .text s → written = s) → Ends r P (f written)) :
    Ends r P (shown v >>= f) := by
  intro w plain known
  by_cases text : ∃ s, v = .text s
  · obtain ⟨s, rfl⟩ := text
    rw [bindOk (shownText s w)]
    exact next s (fun _ same => Value.text.inj same) w plain known
  · have none (written : String) (s : String) (same : v = .text s) : written = s :=
      absurd ⟨s, same⟩ text
    exact endsBind (silentReading (readsShown v)) (fun written => next written (none written))
      w plain known

theorem redirectExecutionEnds :
    Ends r (· = [.executionRedirect, .complete]) (redirectExecution r) :=
  endsBind (silentChange fun _ => rfl) fun _ => redirectEnds fun m => by simp [Marks.after]

theorem fillSilent (input source : Value) : Within (Silent r) (fillInput input source) := by
  unfold fillInput
  split
  · exact silentThrough (Attributes.putAllThrough _ source)
  · exact withinPure (silent r) _

omit [Calls] in
theorem newAttributesSilent (shared : Bool) :
    Within (Silent r) (newAttributes shared .null) := by
  refine withinBind (silent r) (withinModifyGet fun _ => .ofAside rfl rfl rfl rfl) fun _ => ?_
  exact withinBind (silent r) (withinModifyGet fun _ => .ofAside rfl rfl rfl rfl)
    fun _ => withinPure (silent r) _

theorem redirectDefinitionEnds (flow input : Value) :
    Ends r (Operation.redirectDefinition flow input).Emitted (redirectDefinition r flow input) := by
  refine endsBind (silentChange fun _ => rfl) fun _ => ?_
  refine endsBind (newAttributesSilent false) fun own => ?_
  refine endsBind (silentChange fun _ => rfl) fun _ => ?_
  have ending : Ends r (Operation.redirectDefinition flow input).Emitted (do
      record (.definitionRedirect (← shown flow))
      askToComplete r : Action Unit) := by
    refine shownEnds fun written same => ?_
    exact endsMono (fun emitted => ⟨written, same, emitted⟩)
      (redirectEnds fun m => by simp [Marks.after])
  split
  · exact endsBind (fillSilent own input) fun _ => ending
  · exact ending

theorem redirectExternalEnds (location : Value) :
    Ends r (Operation.redirectExternal location).Emitted (redirectExternal r location) := by
  refine endsBind (silentChange fun _ => rfl) fun _ => ?_
  refine shownEnds fun written same => ?_
  exact endsMono (fun emitted => ⟨written, same, emitted⟩)
    (redirectEnds fun m => by simp [Marks.after])

theorem popUpEnds : Ends r (· = [.popup]) (popUp r) := by
  intro w plain known
  rw [popsUp plain]
  by_cases requested : (w.context r).redirectRequested = true
  · have emits : Emits r [.popup] w (marked r { w.context r with popup := true } .popup w) :=
      .ofMarked known (by simp [Marks.after, marks])
    rw [if_pos requested]
    exact ⟨_, rfl, emits⟩
  · rw [if_neg requested]
    exact (silent r).refl w

theorem performEnds (r : Nat) (op : Operation) : Ends r op.Emitted (perform r op) := by
  have only {op : Operation} {records : List Record} (same : ∀ written, op.records written = records)
      (unnamed : op.named = .null) {a : Action Value} (h : Ends r (· = records) a) :
      Ends r op.Emitted a := by
    refine endsMono (fun emitted => ⟨"", fun s text => ?_, emitted.trans (same "").symm⟩) h
    rw [unnamed] at text
    contradiction
  cases settles : op.settles with
  | true =>
    have quiet := endsWithin (settlesWithin (settlesSilent r) settles)
    cases op <;> first | exact only (fun _ => rfl) rfl quiet | contradiction
  | false =>
    cases op with
    | recordComplete =>
      refine only (fun _ => rfl) rfl (endsYield fun w _ known => ?_)
      obtain ⟨done, emits⟩ := completing known
      rw [done]
      exact ⟨_, rfl, emits⟩
    | redirectExecution => exact only (fun _ => rfl) rfl (endsYield redirectExecutionEnds)
    | redirectDefinition flow input => exact endsYield (redirectDefinitionEnds flow input)
    | redirectExternal location => exact endsYield (redirectExternalEnds location)
    | popUp => exact only (fun _ => rfl) rfl (endsYield popUpEnds)
    | _ => contradiction

end Context

end FlowDouble
