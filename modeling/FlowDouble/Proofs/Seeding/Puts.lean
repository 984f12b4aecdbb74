import Mathlib.Data.List.Forall2
import FlowDouble.Proofs.Context.Refusals
/-! What a parameter map holds after a row of entries was put into it: under each name what is kept
of the last value that was put there, and what it held before under all other names. -/
namespace FlowDouble

open FlowDouble.Action ParameterMap

def Puttable (lists : Heap (List Value)) (p : Value × Value) : Prop :=
  p.1.hashable = true ∧ ∃ kept, Keeps lists p.2 kept

def KeptAs (lists : Heap (List Value)) : List (Value × Value) → List (Value × Value) → Prop :=
  List.Forall₂ fun p q => q.1 = p.1 ∧ Keeps lists p.2 q.2

theorem keptFind {lists : Heap (List Value)} {pairs kept : List (Value × Value)}
    (keeps : KeptAs lists pairs kept) (x : Value) :
    Option.Rel (Keeps lists) ((Entries.ofPairs pairs).find? x)
      ((Entries.ofPairs kept).find? x) := by
  induction keeps with
  | nil => exact .none
  | @cons p q pairs kept first rest ih =>
    obtain ⟨name, value⟩ := first
    rw [Entries.findPairsCons, Entries.findPairsCons, name]
    generalize (Entries.ofPairs pairs).find? x = told at ih ⊢
    generalize (Entries.ofPairs kept).find? x = found at ih ⊢
    cases ih with
    | some told => exact .some told
    | none =>
      cases p.1.sameKey x with
      | true => exact .some value
      | false => exact .none

theorem holdableAccepted {v : Value} (holdable : Holdable v) : v.isParameter = true := by
  cases holdable with
  | text s => rfl
  | upload tag name content originalName contentType => rfl
  | texts tag all =>
    exact Bool.or_eq_true_iff.mpr (.inl (List.all_eq_true.mpr fun v mem => isTextIff.mpr (all v mem)))
  | uploads tag all =>
    exact Bool.or_eq_true_iff.mpr
      (.inr (List.all_eq_true.mpr fun v mem => isUploadIff.mpr (all v mem)))

theorem keepsHoldable {lists : Heap (List Value)} {v kept : Value} (holdable : Holdable v)
    (keeps : Keeps lists v kept) : kept = v := by
  cases keeps with
  | itself accepted => rfl
  | row r tag one => nomatch holdable

structure Fills (m : ParameterMap) (pairs : List (Value × Value)) (w w' : World) : Prop where
  only : OnlyParameters w w'
  length : w'.parameterMaps.length = w.parameterMaps.length
  others : ∀ s, s ≠ m.ref → w'.parameterMaps.read s = w.parameterMaps.read s
  entries : ∃ kept, KeptAs w.lists pairs kept ∧
    w'.parameters m = Entries.insertAll (w.parameters m) kept

namespace Fills

variable {m : ParameterMap} {first second pairs : List (Value × Value)} {w w₁ w' : World}

theorem none (m : ParameterMap) (w : World) : Fills m [] w w :=
  ⟨onlyParameters.refl w, rfl, fun _ _ => rfl, [], .nil, rfl⟩

theorem context (fills : Fills m pairs w w') (r : Nat) : w'.context r = w.context r := by
  rw [fills.only]
  rfl

theorem append (before : Fills m first w w₁) (after : Fills m second w₁ w') :
    Fills m (first ++ second) w w' := by
  obtain ⟨kept, keeps, done⟩ := before.entries
  obtain ⟨kept', keeps', done'⟩ := after.entries
  refine ⟨onlyParameters.trans before.only after.only, after.length.trans before.length,
    fun s other => (after.others s other).trans (before.others s other), kept ++ kept', ?_, ?_⟩
  · rw [OnlyParameters.lists before.only] at keeps'
    exact List.rel_append keeps keeps'
  · rw [done', done]
    exact List.foldl_append.symm

theorem told (fills : Fills m pairs w w') {x v : Value}
    (found : (Entries.ofPairs pairs).find? x = some v) :
    ∃ kept, (w'.parameters m).find? x = some kept ∧ Keeps w.lists v kept := by
  obtain ⟨kept, keeps, done⟩ := fills.entries
  have last := keptFind keeps x
  rw [found] at last
  rw [done, Entries.findInsertedAll]
  cases e : (Entries.ofPairs kept).find? x with
  | none =>
    rw [e] at last
    cases last
  | some k =>
    rw [e] at last
    cases last with
    | some keeps => exact ⟨k, rfl, keeps⟩

theorem nothing (fills : Fills m [] w w') : w'.parameters m = w.parameters m := by
  obtain ⟨kept, keeps, done⟩ := fills.entries
  cases keeps
  exact done

theorem untold (fills : Fills m pairs w w') {x : Value}
    (absent : (Entries.ofPairs pairs).find? x = .none) :
    (w'.parameters m).find? x = (w.parameters m).find? x := by
  obtain ⟨kept, keeps, done⟩ := fills.entries
  have last := keptFind keeps x
  rw [absent] at last
  rw [done, Entries.findInsertedAll]
  cases e : (Entries.ofPairs kept).find? x with
  | none => rfl
  | some k =>
    rw [e] at last
    cases last

end Fills

namespace ParameterMap

variable [Calls] {m : ParameterMap} {w w' : World}

theorem acceptKeeps (name : Value) {value kept : Value} (keeps : Keeps w.lists value kept) :
    ∃ v tags, accept name value w = .ok v { w with tags } := by
  cases keeps with
  | itself accepted =>
    have own : accept name value =
        if value.isParameter then pure value else (reject name value : Action Value) := by
      cases value <;> first | rfl | contradiction
    rw [own, if_pos accepted]
    exact ⟨value, w.tags, rfl⟩
  | row r tag one =>
    have own : accept name (.list r) w =
        (if allOneKind (w.lists.read r) then newTuple (w.list r) else reject name (.list r)) w := rfl
    rw [own, if_pos one]
    exact ⟨.tuple w.tags (w.list r), w.tags + 1, rfl⟩

theorem puts {name value : Value} (puttable : Puttable w.lists (name, value)) :
    ∃ w', m.put name value w = .ok () w' := by
  obtain ⟨hashable, kept, keeps⟩ := puttable
  obtain ⟨v, tags, accepted⟩ := acceptKeeps name keeps
  exact ⟨_, (bindOk accepted).trans (bindOk (keyAccepted hashable _))⟩

theorem putDone {name value : Value} (known : m.ref < w.parameterMaps.length)
    (done : m.put name value w = .ok () w') :
    Puttable w.lists (name, value) ∧ Fills m [(name, value)] w w' := by
  rcases putOutcome m name value w with ⟨f, tags, failed⟩ | ⟨kept, tags, outcome, hashable, keeps⟩
  · rw [failed] at done
    contradiction
  · rw [outcome] at done
    cases done
    refine ⟨⟨hashable, kept, keeps⟩, rfl, Heap.writeKeepsLength _ _ _,
      fun s other => Heap.readOther _ _ other.symm, [(name, kept)], ?_, ?_⟩
    · exact .cons ⟨rfl, keeps⟩ .nil
    · exact Heap.readWritten _ known

theorem putsAll {pairs : List (Value × Value)} (known : m.ref < w.parameterMaps.length)
    (puttable : ∀ p ∈ pairs, Puttable w.lists p) :
    ∃ w', Value.forPairs m.put pairs w = .ok () w' := by
  induction pairs generalizing w with
  | nil => exact ⟨w, rfl⟩
  | cons p rest ih =>
    obtain ⟨w₁, first⟩ := puts (m := m) (puttable p List.mem_cons_self)
    obtain ⟨_, fills⟩ := putDone known first
    rw [← fills.length] at known
    have lists : w₁.lists = w.lists := OnlyParameters.lists fills.only
    obtain ⟨w', later⟩ := ih known fun q mem =>
      lists ▸ puttable q (List.mem_cons_of_mem _ mem)
    exact ⟨w', (bindOk first).trans later⟩

theorem putsFill {pairs : List (Value × Value)} (known : m.ref < w.parameterMaps.length)
    (done : Value.forPairs m.put pairs w = .ok () w') :
    (∀ p ∈ pairs, Puttable w.lists p) ∧ Fills m pairs w w' := by
  induction pairs generalizing w with
  | nil =>
    cases done
    exact ⟨by simp, .none m _⟩
  | cons p rest ih =>
    obtain ⟨_, w₁, first, later⟩ := bindInv done
    obtain ⟨puttable, fills⟩ := putDone known first
    rw [← fills.length] at known
    obtain ⟨others, refills⟩ := ih known later
    rw [OnlyParameters.lists fills.only] at others
    exact ⟨List.forall_mem_cons.mpr ⟨puttable, others⟩, fills.append refills⟩

end ParameterMap

namespace Context

variable [Calls] {r : Nat} {w w' : World} {pairs : List (Value × Value)}

theorem putsThrough (plain : w.Plain) (writable : (w.context r).parameters.writable = true) :
    Value.forPairs (putParameter r) pairs w =
      Value.forPairs (w.context r).parameters.put pairs w := by
  induction pairs generalizing w with
  | nil => rfl
  | cons p rest ih =>
    have first : putParameter r p.1 p.2 w = (w.context r).parameters.put p.1 p.2 w := by
      rw [putParameterPlain plain, if_pos writable]
    unfold Value.forPairs
    cases h : (w.context r).parameters.put p.1 p.2 w with
    | error f w₁ => rw [bindError h, bindError (first.trans h)]
    | ok u w₁ =>
      have only : OnlyParameters w w₁ :=
        leavesOk h ▸ ParameterMap.putFills (w.context r).parameters p.1 p.2 w plain
      have same : w₁.context r = w.context r := by
        rw [only]
        rfl
      have later := ih (World.plainKept (onlyParameters.attachments only) plain) (same ▸ writable)
      rw [bindOk h, bindOk (first.trans h), later, same]

theorem putsNothing (readOnly : ¬ (w.context r).parameters.writable = true) (plain : w.Plain)
    (done : Value.forPairs (putParameter r) pairs w = .ok () w') : pairs = [] ∧ w' = w := by
  cases pairs with
  | nil =>
    cases done
    exact ⟨rfl, rfl⟩
  | cons p rest =>
    obtain ⟨_, w₁, first, _⟩ := bindInv done
    rw [putParameterPlain plain, if_neg readOnly] at first
    contradiction

end Context

end FlowDouble
