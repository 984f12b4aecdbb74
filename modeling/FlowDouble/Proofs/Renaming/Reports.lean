import Mathlib.Data.List.InsertIdx
import FlowDouble.Report
import FlowDouble.Sorting
import FlowDouble.Proofs.Renaming.Showing
/-! Texts, comparisons and reports in twin worlds. -/
namespace FlowDouble

section
variable {P : Pairing} {w w' : World} {v v' u u' k k' m m' : Value} {es es' : Entries}

namespace Alike

variable {x x' y y' : Snapshot}

theorem display (alike : Alike P x x') : Alike P x.display x'.display :=
  alike.map fun ρ x => x.writeRenamed ρ .display

theorem spell (alike : Alike P x x') : Alike P x.spell x'.spell :=
  alike.map fun ρ x => x.writeRenamed ρ .spelling

theorem equal (left : Alike P x x') (right : Alike P y y') : Alike P (x.equal y) (x'.equal y') :=
  left.map₂ (fun ρ x y => x.equalRenamed ρ y) right

theorem matched (left : Alike P x x') (right : Alike P y y') : Alike P (x.alike y) (x'.alike y') :=
  left.map₂ (fun ρ x y => x.alikeRenamed ρ y) right

theorem less (left : Alike P x x') (right : Alike P y y') : Alike P (x.less y) (x'.less y') :=
  left.map₂ (fun ρ x y => x.lessRenamed ρ y) right

end Alike

theorem shownApart {message message' metadata metadata' : Snapshot}
    {debug debug' : List (Snapshot × Snapshot)} {suggestions suggestions' : List Snapshot}
    {r r' : Nat} {kind : Kind} {arguments arguments' : List Snapshot}
    {extra extra' : List (String × Snapshot)} {cause cause' : Option Kind}
    (words : Alike P message message') (data : Alike P metadata metadata')
    (notes : Alike P debug debug') (hints : Alike P suggestions suggestions') :
    Alike P (Snapshot.report r kind message metadata debug suggestions arguments extra cause).display
      (Snapshot.report r' kind message' metadata' debug' suggestions' arguments' extra'
        cause').display := by
  have parts := alikePair (alikePair words data) (alikePair notes hints)
  have apart (r : Nat) (message metadata : Snapshot) (debug : List (Snapshot × Snapshot))
      (suggestions arguments : List Snapshot) (extra : List (String × Snapshot))
      (cause : Option Kind) :
      (Snapshot.report r kind message metadata debug suggestions arguments extra cause).display =
        (Snapshot.report 0 kind message metadata debug suggestions [] [] none).display := by
    unfold Snapshot.display
    rw [Snapshot.write, Snapshot.write]
  rw [apart r, apart r']
  refine parts.map (f := fun p => (Snapshot.report 0 kind p.1.1 p.1.2 p.2.1 p.2.2 [] [] none).display)
    fun ρ p => ?_
  have renamed := (Snapshot.report 0 kind p.1.1 p.1.2 p.2.1 p.2.2 [] [] none).writeRenamed ρ .display
  rw [Snapshot.rename, Snapshot.renameEach, Snapshot.renameEachPair] at renamed
  exact (apart _ _ _ _ _ _ _ _).symm.trans renamed

theorem failureApart {r r' : Nat} (kind : Kind) {xs xs' : List Snapshot} (alike : Alike P xs xs') :
    Alike P (Snapshot.fault r kind xs).display (Snapshot.fault r' kind xs').display := by
  have apart (r : Nat) (xs : List Snapshot) :
      (Snapshot.fault r kind xs).display = (Snapshot.fault 0 kind xs).display := by
    unfold Snapshot.display
    match xs with
    | [] => rw [Snapshot.write, Snapshot.write]
    | [x] =>
      by_cases missing : kind = .missingKey
      · subst missing
        rw [Snapshot.write, Snapshot.write]
      · simp only [Snapshot.write]
    | x :: y :: rest => simp only [Snapshot.write]
  rw [apart r, apart r']
  refine alike.map (f := fun xs => (Snapshot.fault 0 kind xs).display) fun ρ xs => ?_
  have renamed := (Snapshot.fault 0 kind xs).writeRenamed ρ .display
  rw [Snapshot.rename, Snapshot.renameEach] at renamed
  exact (apart _ _).symm.trans renamed

theorem Twin.faultText [Calls] (twin : Twin P w w') {f f' : Fault} (alike : Alike P f f') :
    Alike P (w.snapshotFault f).display (w'.snapshotFault f').display := by
  have kind : f'.kind = f.kind := by
    rw [alike.renamed]
    exact f.kindRenamed _
  have arguments : Alike P f.arguments f'.arguments := alike.map fun ρ f => f.argumentsRenamed ρ
  have resolves := twin.resolver (w.reach + 1)
  have plain : Alike P
      (Snapshot.fault w.errors.length f.kind
        (Value.snapshots (World.resolver (w.reach + 1) w) f.arguments)).display
      (Snapshot.fault w'.errors.length f'.kind
        (Value.snapshots (World.resolver (w.reach + 1) w') f'.arguments)).display := by
    rw [kind]
    exact failureApart _ (resolves.values _ arguments)
  unfold World.snapshotFault
  rw [twin.reach]
  cases alike.likeFault with
  | @report told told' same =>
    show Alike P (World.snapshotReport w told _ _ _ _).display
      (World.snapshotReport w' told' _ _ _ _).display
    unfold World.snapshotReport
    rw [show told'.diagnosis.kind = told.diagnosis.kind from kind]
    exact shownApart (resolves.value _ (same.map (f := Report.message) fun _ _ => rfl))
      (alikeMapping _ (resolves.entries (same.map (f := Report.metadata) fun _ _ => rfl)))
      (resolves.entries (same.map (f := Report.debug) fun _ _ => rfl))
      (resolves.values _ (same.map (f := Report.suggestions) fun _ _ => rfl))
  | missingKey | misuse => exact plain

namespace Sorting

variable {α : Type} [Renames α] {less less' : α → α → Except Fault Bool} {a a' : α}
  {as as' : List α}

theorem runAlike (falling : Bool)
    (same : ∀ {a a' b b'}, Alike P a a' → Alike P b b' → Alike P (less a b) (less' a' b'))
    (last : Alike P a a') (others : Alike P as as') :
    Alike P (run less falling a as) (run less' falling a' as') := by
  induction as generalizing a a' as' with
  | nil =>
    obtain ⟨_, rfl⟩ | ⟨_, _, _, _, wrong, _⟩ := others.list
    · exact alikeFixed fun _ => rfl
    · contradiction
  | cons b bs ih =>
    obtain ⟨wrong, _⟩ | ⟨_, _, b', bs', here, rfl, first, rest⟩ := others.list
    · contradiction
    cases here
    refine (same first last).andThen fun below below' equal => ?_
    rw [equal.still]
    refine alikeIf ((ih first rest).andThen fun p p' parts => ?_) ?_
    · exact alikeOk (alikePair (alikeCons first parts.fst) parts.snd)
    · exact alikeOk (alikePair alikeNil (alikeCons first rest))

theorem placeAlike
    (same : ∀ {a a' b b'}, Alike P a a' → Alike P b b' → Alike P (less a b) (less' a' b'))
    (key : Alike P a a') (sorted : Alike P as as') (n lo hi : Nat) :
    Alike P (place less a as n lo hi) (place less' a' as' n lo hi) := by
  induction n generalizing lo hi with
  | zero => exact alikeOk (alikeStill _)
  | succ n ih =>
    refine alikeIf ?_ (alikeOk (alikeStill _))
    dsimp only
    obtain ⟨e, e'⟩ | ⟨l, l', e, e', there⟩ := (sorted.get (lo + (hi - lo) / 2)).option
    · rw [e, e']
      exact ih _ _
    · rw [e, e']
      refine (same key there).andThen fun below below' equal => ?_
      rw [equal.still]
      exact alikeIf (ih _ _) (ih _ _)

theorem insertAlike
    (same : ∀ {a a' b b'}, Alike P a a' → Alike P b b' → Alike P (less a b) (less' a' b'))
    (sorted : Alike P as as') (key : Alike P a a') :
    Alike P (insert less as a) (insert less' as' a') := by
  unfold insert
  rw [sorted.lengths]
  refine (placeAlike same key sorted _ _ _).andThen fun i i' equal => ?_
  rw [equal.still]
  exact alikeOk (sorted.map₂ (f := fun as a => as.insertIdx i a)
    (fun _ _ _ => (List.map_insertIdx ..).symm) key)

theorem foldAlike {bs bs' : List α}
    (same : ∀ {a a' b b'}, Alike P a a' → Alike P b b' → Alike P (less a b) (less' a' b'))
    (start : Alike P as as') (others : Alike P bs bs') :
    Alike P (bs.foldlM (insert less) as) (bs'.foldlM (insert less') as') := by
  induction bs generalizing as as' bs' with
  | nil =>
    obtain ⟨_, rfl⟩ | ⟨_, _, _, _, wrong, _⟩ := others.list
    · exact alikeOk start
    · contradiction
  | cons b bs ih =>
    obtain ⟨wrong, _⟩ | ⟨_, _, b', bs', here, rfl, first, rest⟩ := others.list
    · contradiction
    cases here
    rw [List.foldlM_cons, List.foldlM_cons]
    exact (insertAlike same start first).andThen fun _ _ grown => ih grown rest

theorem sortAlike
    (same : ∀ {a a' b b'}, Alike P a a' → Alike P b b' → Alike P (less a b) (less' a' b'))
    (alike : Alike P as as') : Alike P (sort less as) (sort less' as') := by
  obtain ⟨rfl, rfl⟩ | ⟨a, bs, a', bs', rfl, rfl, first, rest⟩ := alike.list
  · exact alikeOk alikeNil
  obtain ⟨rfl, rfl⟩ | ⟨b, cs, b', cs', rfl, rfl, second, others⟩ := rest.list
  · exact alikeOk (alikeCons first alikeNil)
  refine (same second first).andThen fun falling falling' equal => ?_
  rw [equal.still]
  refine (runAlike falling same second others).andThen fun p p' parts => ?_
  have start := alikeCons first (alikeCons second parts.fst)
  have turned := start.map (f := List.reverse) fun _ _ => (List.map_reverse ..).symm
  exact foldAlike same (alikeIf turned start) parts.snd

end Sorting

namespace Twin

theorem kindName (twin : Twin P w w') (alike : Alike P v v') :
    Alike P (Report.kindName w v) (Report.kindName w' v') := by
  have other : Alike P (.error (.misuse (.noMember v Report.nameMember)) : Except Fault Value)
      (.error (.misuse (.noMember v' Report.nameMember))) :=
    alike.map (f := fun v => (.error (.misuse (.noMember v Report.nameMember)) : Except Fault Value))
      fun _ _ => rfl
  unfold Report.kindName
  rw [twin.unhidden, twin.unhidden']
  cases alike.like with
  | kind k => exact alikeFixed fun _ => rfl
  | converter c => cases c <;> exact alikeFixed fun _ => rfl
  | @function r r' pairs =>
    have handler : (w'.function r').handler = (w.function r).handler := by
      rw [(twin.function pairs).renamed]
      rfl
    show Alike P (Except.ok (Value.text _)) (.ok (Value.text _))
    rw [handler]
    exact alikeFixed fun _ => rfl
  | operation pairs owner name => exact alikeFixed fun _ => rfl
  | _ => exact other

theorem noteOf (twin : Twin P w w') (name : String) (alike : Alike P v v') :
    Alike P (Report.noteOf w name v) (Report.noteOf w' name v') := by
  refine (twin.truthy alike).andThen fun b b' same => ?_
  rw [same.still]
  exact alikeIf (alikeOk (alikeCons (alikePair (alikeFixed fun _ => rfl) alike) alikeNil))
    (alikeOk alikeNil)

theorem redirectNotRequested (twin : Twin P w w') (message : Alike P m m')
    (metadata : Alike P es es') :
    Alike P (Report.redirectNotRequested w m es) (Report.redirectNotRequested w' m' es') := by
  refine (twin.truthy message).andThen fun given given' same => ?_
  rw [same.still]
  have words : Alike P (if given then m else .text Report.popupMessage)
      (if given then m' else .text Report.popupMessage) :=
    alikeIf message (alikeFixed fun _ => rfl)
  exact words.map₂ (f := fun m es => (.ok {
    diagnosis := .redirectNotRequested
    message := m
    metadata := es
    suggestions := [.text "Request a redirect first, then mark it as a popup redirect"] } :
      Except Fault Report)) (fun _ _ _ => rfl) metadata

theorem configuration (twin : Twin P w w') (message : Alike P m m') (field : Alike P v v')
    (metadata : Alike P es es') :
    Alike P (Report.configuration w m v es) (Report.configuration w' m' v' es') := by
  refine (twin.noteOf "configuration_field" field).andThen fun notes notes' same => ?_
  have parts := alikePair (alikePair message field) (alikePair metadata same)
  exact parts.map (f := fun p => (.ok {
    diagnosis := .configuration
    message := p.1.1
    metadata := (.text "field", p.1.2) :: p.2.1
    debug := p.2.2 } : Except Fault Report)) fun _ _ => rfl

theorem attributeNotFound (twin : Twin P w w') (message : Alike P m m') (key : Alike P k k')
    (metadata : Alike P es es') :
    Alike P (Report.attributeNotFound w m k es) (Report.attributeNotFound w' m' k' es') := by
  refine (twin.noteOf "missing_key" key).andThen fun notes notes' same => ?_
  have parts := alikePair (alikePair message key) (alikePair metadata same)
  exact parts.map (f := fun p => (.ok {
    diagnosis := .attributeNotFound p.1.2
    message := p.1.1
    metadata := (.text "key", p.1.2) :: p.2.1
    debug := p.2.2 } : Except Fault Report)) fun _ _ => rfl

theorem expectedNote (twin : Twin P w w') (alike : Alike P v v') :
    Alike P (Report.expectedNote w v) (Report.expectedNote w' v') := by
  have named : Alike P
      (Report.kindName w v >>= fun name => pure [(.text "expected_type", name)] :
        Except Fault Entries)
      (Report.kindName w' v' >>= fun name => pure [(.text "expected_type", name)]) :=
    (twin.kindName alike).andThen fun _ _ same =>
      alikeOk (alikeCons (alikePair (alikeFixed fun _ => rfl) same) alikeNil)
  cases alike.like with
  | null => exact alikeFixed fun _ => rfl
  | _ => exact named

theorem attributeType (twin : Twin P w w') (message : Alike P m m') (key : Alike P k k')
    (expected : Alike P v v') (value : Alike P u u') (metadata : Alike P es es') :
    Alike P (Report.attributeType w m k v u es) (Report.attributeType w' m' k' v' u' es') := by
  refine (twin.expectedNote expected).andThen fun wanted wanted' same => ?_
  have kind := value.kindOf
  have actual : Alike P (Report.actualNote u) (Report.actualNote u') := by
    have note : Alike P [(Value.text "actual_type", Value.text u.kindOf.name)]
        [(Value.text "actual_type", Value.text u'.kindOf.name)] := by
      rw [kind]
      exact alikeFixed fun _ => rfl
    cases value.like with
    | null => exact alikeNil
    | _ => exact note
  have parts := alikePair (alikePair message (alikePair key expected))
    (alikePair metadata (same.append actual))
  exact parts.map (f := fun p => (.ok {
    diagnosis := .attributeType p.1.2.1 p.1.2.2
    message := p.1.1
    metadata := (.text "key", p.1.2.1) :: p.2.1
    debug := p.2.2 } : Except Fault Report)) fun _ _ => rfl

end Twin

namespace Mirrors

variable {R : Bond} {α : Type} [Renames α]

theorem refuse {r r' : Report} (alike : Alike P r r') :
    Mirrors R P (Action.refuse r : Action α) (Action.refuse r') :=
  .throw alike.fault

theorem refuseWith {r r' : Except Fault Report} (alike : Alike P r r') :
    Mirrors R P (Action.refuseWith r : Action α) (Action.refuseWith r') :=
  .bind (.except alike) fun _ _ _ _ same => .refuse same

theorem refuseType (message : String) (key : Alike P k k') (expected : Alike P v v')
    (value : Alike P u u') :
    Mirrors R P (Action.refuseType message k v u : Action α)
      (Action.refuseType message k' v' u') :=
  .world fun w w' twin bond => Mirrors.refuseWith
    (twin.attributeType (alikeFixed fun _ => rfl) key expected value alikeNil) w w' twin bond

theorem refuseMissing (message : String) (key : Alike P k k') (metadata : Alike P es es') :
    Mirrors R P (Action.refuseMissing message k es : Action α)
      (Action.refuseMissing message k' es') :=
  .world fun w w' twin bond => Mirrors.refuseWith
    (twin.attributeNotFound (alikeFixed fun _ => rfl) key metadata) w w' twin bond

variable [Calls]

theorem shown (alike : Alike P v v') : Mirrors R P (Action.shown v) (Action.shown v') :=
  .asked fun _ _ twin => (twin.snapshot alike).display

theorem spelled (alike : Alike P v v') : Mirrors R P (Action.spelled v) (Action.spelled v') :=
  .asked fun _ _ twin => (twin.snapshot alike).spell

end Mirrors

end

end FlowDouble
