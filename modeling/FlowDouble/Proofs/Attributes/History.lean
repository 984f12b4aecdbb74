import Mathlib.Data.List.Forall2
import FlowDouble.Invocation
import FlowDouble.Proofs.Attributes.Refinement
/-! What is asked of any number of attribute maps over one dictionary, in any order and with
anything in between that leaves the dictionary alone, is answered as one table answers. -/
namespace FlowDouble.Attributes

open FlowDouble.Action

structure Asked where
  layer : Layer
  request : Request
  before : World

structure Apart (d : Nat) (w w' : World) : Prop where
  dictionary : w'.dictionary d = w.dictionary d
  grows : w.dictionaries.length ≤ w'.dictionaries.length
  plain : w.Plain → w'.Plain

def outcome (d : Nat) : EStateM.Result Fault World Value → Option Kind × Entries
  | .ok _ w => (none, w.dictionary d)
  | .error f w => (some f.kind, w.dictionary d)

section
variable [Calls] {d : Nat} {w w' : World}

namespace Asked

def order (d : Nat) (a : Asked) : Table.Order := a.request.order d a.before

def Answered (a : Asked) (answer : Table.Answer) : Prop :=
  match a.request.act a.layer a.before, answer with
  | .ok v w', .ok reply => reply.Shown a.layer.map a.before w' v
  | .error f _, .error k => k = f.kind
  | _, _ => False

end Asked

inductive Run (d : Nat) : World → List Asked → World → Prop where
  | done (w : World) : Run d w [] w
  | apart {w v w' asked} (apart : Apart d w v) (rest : Run d v asked w') : Run d w asked w'
  | asked {w w' rest} (layer : Layer) (request : Request) (ends : layer.Over d)
      (proper : request.Proper) (later : Run d ((request.act layer).leaves w) rest w') :
      Run d w (⟨layer, request, w⟩ :: rest) w'

theorem askedMeets {layer : Layer} {request : Request} (ends : layer.Over d) (plain : w.Plain)
    (known : d < w.dictionaries.length) (sound : (w.dictionary d).Sound)
    (proper : request.Proper) :
    Asked.Answered ⟨layer, request, w⟩ (Table.step (w.dictionary d) (request.order d w)).1 ∧
      After d w ((request.act layer).leaves w)
        (Table.step (w.dictionary d) (request.order d w)).2 := by
  have meets := requestMeets ends plain known sound proper
  unfold Asked.Answered
  cases h : request.act layer w with
  | ok v w' =>
    rw [h] at meets
    obtain ⟨reply, answer, shown, after⟩ := meets
    rw [leavesOk h, answer]
    exact ⟨shown, after⟩
  | error f w' =>
    rw [h] at meets
    obtain ⟨answer, after⟩ := meets
    rw [leavesError h, answer]
    exact ⟨rfl, after⟩

omit [Calls] in
theorem pouredOutcome {map : Value} {result : EStateM.Result Fault World Value} {offer : Offer}
    {chained : Bool} (meets : Meets d map w (.pour offer.1 offer.2 chained) result) :
    outcome d result = (offer.2, Table.writeAll offer.1 (w.dictionary d)) := by
  obtain ⟨pairs, fault⟩ := offer
  cases result with
  | ok v w' =>
    obtain ⟨reply, answer, _, after⟩ := meets
    cases fault with
    | none => exact congrArg (Prod.mk none) after.dictionary
    | some k => contradiction
  | error f w' =>
    obtain ⟨answer, after⟩ := meets
    cases fault with
    | none => contradiction
    | some k =>
      cases answer
      exact congrArg (Prod.mk _) after.dictionary

theorem bulkOutcome {layer : Layer} (ends : layer.Over d) (plain : w.Plain)
    (known : d < w.dictionaries.length) (sound : (w.dictionary d).Sound) (source : Value) :
    let offer := w.offered d source
    let written := (offer.2, Table.writeAll offer.1 (w.dictionary d))
    outcome d ((Request.putAll source).act layer w) = written ∧
      outcome d ((Request.update (some source) []).act layer w) = written ∧
      ∀ rows, w.BreaksAfter source rows → ∃ k, offer = (rows.map (·.2), some k) := by
  have proper : (Request.putAll source).Proper := trivial
  have put := requestMeets ends plain known sound proper
  have proper : (Request.update (some source) []).Proper := trivial
  have updated := requestMeets ends plain known sound proper
  have poured : outcome d _ = (_, Table.writeAll (Offer.followed (w.offered d source) []).1 _) :=
    pouredOutcome updated
  rw [Offer.followedNone] at poured
  exact ⟨pouredOutcome put, poured, fun rows => World.offeredUpToBad⟩

/-- However many maps there are over a dictionary and however deep they lie, they are one table: all
they are asked for is answered as the table answers it, all of them show its entries, and both ways
to write many entries write those before the first bad one. -/
theorem layeredMapsAreOneTable {asked : List Asked} (plain : w.Plain)
    (known : d < w.dictionaries.length) (sound : (w.dictionary d).Sound) (run : Run d w asked w') :
    let (answers, es) := Table.replay (w.dictionary d) (asked.map (·.order d))
    List.Forall₂ Asked.Answered asked answers ∧ es.Sound ∧ w'.dictionary d = es ∧
      ∀ layer : Layer, layer.Over d → w'.items layer.map = ⟨es, none⟩ ∧
        ∀ source,
          let offer := w'.offered d source
          let written := (offer.2, Table.writeAll offer.1 es)
          outcome d ((Request.putAll source).act layer w') = written ∧
            outcome d ((Request.update (some source) []).act layer w') = written ∧
            ∀ rows, w'.BreaksAfter source rows → ∃ k, offer = (rows.map (·.2), some k) := by
  -- What each step leaves is sound again, so the table goes on from what the dictionary holds then.
  induction run with
  | done w =>
    refine ⟨.nil, sound, rfl, fun layer ends => ⟨World.itemsOver ends, fun source => ?_⟩⟩
    exact bulkOutcome ends plain known sound source
  | @apart w v w' asked apart rest ih =>
    have later := ih (apart.plain plain) (Nat.lt_of_lt_of_le known apart.grows)
      (apart.dictionary.symm ▸ sound)
    rw [apart.dictionary] at later
    exact later
  | @asked w w' rest layer request ends proper later ih =>
    obtain ⟨answered, after⟩ := askedMeets ends plain known sound proper
    have sound' := Table.soundAfter sound (orderHashable (w := w) (d := d) proper)
    have others := ih (after.plain plain) (after.known known) (after.dictionary.symm ▸ sound')
    rw [after.dictionary] at others
    obtain ⟨answers, kept⟩ := others
    exact ⟨.cons answered answers, kept⟩

end

theorem badPairLeavesFirst :
    let w : World :=
      { dictionaries := [[(.text "a", .int 1)]]
        lists := [[.tuple 0 [.text "b", .int 2], .int 7]] }
    let below : Layer := ⟨0, false, .dictionary 0⟩
    let above : Layer := ⟨1, true, below.map⟩
    ∃ asked w', Run 0 w asked w' ∧ w'.items above.map = ⟨[], none⟩ ∧
      asked.map (fun a => (a.layer, a.request)) =
        [(above, .putAll (.list 0)), (below, .pop (.text "a") none), (above, .popFirst)] ∧
      List.Forall₂ Asked.Answered asked
        [.error .wrongType, .ok (.value (.int 1)), .ok (.row [.text "b", .int 2])] := by
  intro w below above
  have plain : w.Plain := fun _ _ _ => rfl
  have sound : (w.dictionary 0).Sound := by
    refine ⟨fun e mem => ?_, List.pairwise_singleton _ _⟩
    cases List.mem_singleton.mp mem
    rfl
  have run : Run 0 w _ _ := .asked above (.putAll (.list 0)) rfl trivial
    (.asked below (.pop (.text "a") none) rfl rfl (.asked above .popFirst rfl trivial (.done _)))
  obtain ⟨answered, _, _, shows⟩ := layeredMapsAreOneTable plain (by decide) sound run
  exact ⟨_, _, run, (shows above rfl).1, rfl, answered⟩

end FlowDouble.Attributes
