import FlowDouble.Sorting
import Mathlib.Data.List.InsertIdx
import Mathlib.Data.List.Perm.Basic
import Mathlib.Order.Lattice
/-! Things that are compared by their ranks are rearranged into ascending order. The run at the
beginning is in order once it is turned around where it falls, and everything after it is put where
what comes before is not above it and what comes after is. -/
namespace FlowDouble.Sorting

variable {α β : Type} [LinearOrder β] {less : α → α → Except Fault Bool} {rank : α → β}
variable {P : α → Prop}

def Follows (rank : α → β) (falling : Bool) (a b : α) : Prop :=
  if falling then rank b < rank a else rank a ≤ rank b

abbrev Ascending (rank : α → β) (ks : List α) : Prop := ks.Pairwise fun a b => rank a ≤ rank b

theorem followsIff {falling : Bool} {a b : α} :
    decide (rank b < rank a) = falling ↔ Follows rank falling a b := by
  cases falling <;> simp [Follows]

instance (rank : α → β) (falling : Bool) : IsTrans α (Follows rank falling) where
  trans a b c ab bc := by
    cases falling with
    | true => exact lt_trans bc ab
    | false => exact le_trans ab bc

theorem turnedAscends {falling : Bool} {ks : List α} (run : ks.Pairwise (Follows rank falling)) :
    (if falling then ks.reverse else ks).Perm ks ∧
      Ascending rank (if falling then ks.reverse else ks) := by
  cases falling with
  | true => exact ⟨ks.reverse_perm, List.pairwise_reverse.mpr (run.imp le_of_lt)⟩
  | false => exact ⟨.refl _, run⟩

theorem insertsBetween {ks : List α} {i : Nat} (inside : i ≤ ks.length) (k : α) :
    ks.insertIdx i k = ks.take i ++ k :: ks.drop i := by
  induction ks generalizing i with
  | nil => simp [Nat.le_zero.mp inside]
  | cons l ks ih =>
    cases i with
    | zero => rfl
    | succ i => simp [ih (Nat.le_of_succ_le_succ inside)]

theorem aroundPlace {ks : List α} (ascending : Ascending rank ks) {m : Nat} (inside : m < ks.length) :
    (∀ l ∈ ks.take (m + 1), rank l ≤ rank ks[m]) ∧ ∀ l ∈ ks.drop m, rank ks[m] ≤ rank l := by
  have before := List.take_succ_eq_append_getElem inside
  have after := List.drop_eq_getElem_cons inside
  have whole : ks.take m ++ ks[m] :: ks.drop (m + 1) = ks := by
    rw [← after, List.take_append_drop]
  have split : Ascending rank (ks.take m ++ ks[m] :: ks.drop (m + 1)) := whole.symm ▸ ascending
  obtain ⟨_, rest, apart⟩ := List.pairwise_append.mp split
  constructor
  · intro l mem
    rw [before] at mem
    rcases List.mem_append.mp mem with early | same
    · exact apart l early _ List.mem_cons_self
    · rw [List.mem_singleton.mp same]
  · intro l mem
    rw [after] at mem
    rcases List.mem_cons.mp mem with rfl | late
    · exact le_refl _
    · exact (List.pairwise_cons.mp rest).1 l late

theorem placeHalves {k : α} {ks : List α} {n lo hi m : Nat} {below : Bool} (more : lo < hi)
    (middle : lo + (hi - lo) / 2 = m) (there : m < ks.length)
    (compared : less k ks[m] = .ok below) :
    place less k ks (n + 1) lo hi =
      if below then place less k ks n lo m else place less k ks n (m + 1) hi := by
  subst middle
  simp only [place, more, if_true, List.getElem?_eq_getElem there, compared]
  rfl

section
variable (told : ∀ a b, P a → P b → less a b = .ok (decide (rank a < rank b)))
include told

theorem runSplits (falling : Bool) {last : α} {ks : List α} (first : P last)
    (all : ∀ k ∈ ks, P k) :
    ∃ ahead behind, run less falling last ks = .ok (ahead, behind) ∧ ahead ++ behind = ks ∧
      (last :: ahead).IsChain (Follows rank falling) := by
  induction ks generalizing last with
  | nil => exact ⟨[], [], rfl, rfl, .singleton _⟩
  | cons k ks ih =>
    have good := all k List.mem_cons_self
    have compared := told k last good first
    by_cases follows : Follows rank falling last k
    · obtain ⟨ahead, behind, runs, whole, chain⟩ :=
        ih good fun l mem => all l (List.mem_cons_of_mem _ mem)
      refine ⟨k :: ahead, behind, ?_, by rw [List.cons_append, whole], .cons_cons follows chain⟩
      simp only [run, compared, runs, bind, Except.bind, followsIff.mpr follows, if_true]
      rfl
    · refine ⟨[], k :: ks, ?_, rfl, .singleton _⟩
      simp only [run, compared, bind, Except.bind, mt followsIff.mp follows, if_false]
      rfl

def Parts (rank : α → β) (k : α) (ks : List α) (lo hi : Nat) : Prop :=
  (∀ l ∈ ks.take lo, rank l ≤ rank k) ∧ ∀ l ∈ ks.drop hi, rank k < rank l

theorem placeParts {k : α} {ks : List α} (good : P k) (all : ∀ l ∈ ks, P l)
    (ascending : Ascending rank ks) {n lo hi : Nat} (enough : hi - lo ≤ n) (range : lo ≤ hi)
    (inside : hi ≤ ks.length) (parts : Parts rank k ks lo hi) :
    ∃ i ≤ ks.length, place less k ks n lo hi = .ok i ∧ Parts rank k ks i i := by
  induction n generalizing lo hi with
  | zero =>
    have met : lo = hi := by omega
    exact ⟨lo, Nat.le_trans range inside, rfl, by rwa [← met] at parts⟩
  | succ n ih =>
    by_cases more : lo < hi
    · obtain ⟨m, middle⟩ : ∃ m, lo + (hi - lo) / 2 = m := ⟨_, rfl⟩
      have there : m < ks.length := by omega
      obtain ⟨below, above⟩ := aroundPlace ascending there
      have halves := placeHalves (n := n) more middle there
        (told k ks[m] good (all _ (List.getElem_mem there)))
      by_cases under : rank k < rank ks[m]
      · have left : Parts rank k ks lo m :=
          ⟨parts.1, fun l mem => lt_of_lt_of_le under (above l mem)⟩
        rw [halves, if_pos (decide_eq_true under)]
        exact ih (by omega) (by omega) (Nat.le_of_lt there) left
      · have right : Parts rank k ks (m + 1) hi :=
          ⟨fun l mem => le_trans (below l mem) (not_lt.mp under), parts.2⟩
        rw [halves, if_neg (by simpa using under)]
        exact ih (by omega) (by omega) inside right
    · have met : lo = hi := by omega
      refine ⟨lo, Nat.le_trans range inside, ?_, by rwa [← met] at parts⟩
      simp only [place, more, if_false]

theorem insertAscends {k : α} {ks : List α} (good : P k) (all : ∀ l ∈ ks, P l)
    (ascending : Ascending rank ks) :
    ∃ ls, insert less ks k = .ok ls ∧ ls.Perm (k :: ks) ∧ Ascending rank ls := by
  obtain ⟨i, inside, found, before, after⟩ := placeParts told good all ascending
    (Nat.sub_le ks.length 0) (Nat.zero_le _) (Nat.le_refl _) ⟨by simp, by simp⟩
  refine ⟨ks.insertIdx i k, ?_, List.perm_insertIdx k ks inside, ?_⟩
  · unfold insert
    rw [found]
    rfl
  · have split : Ascending rank (ks.take i ++ ks.drop i) := by rwa [List.take_append_drop]
    obtain ⟨first, last, apart⟩ := List.pairwise_append.mp split
    rw [insertsBetween inside]
    refine List.pairwise_append.mpr ⟨first,
      List.pairwise_cons.mpr ⟨fun l mem => le_of_lt (after l mem), last⟩, fun a early b mem => ?_⟩
    rcases List.mem_cons.mp mem with rfl | late
    · exact before a early
    · exact apart a early b late

theorem insertAllAscends {ks : List α} (behind : List α) (all : ∀ l ∈ behind ++ ks, P l)
    (ascending : Ascending rank ks) :
    ∃ ls, behind.foldlM (insert less) ks = .ok ls ∧ ls.Perm (behind ++ ks) ∧
      Ascending rank ls := by
  induction behind generalizing ks with
  | nil => exact ⟨ks, rfl, .refl _, ascending⟩
  | cons k behind ih =>
    have good := all k (by simp)
    obtain ⟨ks', inserted, same, ascends⟩ :=
      insertAscends told good (fun l mem => all l (by simp [mem])) ascending
    have kept : (behind ++ ks').Perm (k :: behind ++ ks) :=
      (same.append_left behind).trans List.perm_middle
    obtain ⟨ls, done, perm, last⟩ := ih (fun l mem => all l (kept.subset mem)) ascends
    refine ⟨ls, ?_, perm.trans kept, last⟩
    rw [List.foldlM_cons, inserted]
    exact done

theorem sortAscends (ks : List α) (all : ∀ k ∈ ks, P k) :
    ∃ ls, sort less ks = .ok ls ∧ ls.Perm ks ∧ Ascending rank ls := by
  match ks, all with
  | [], _ => exact ⟨[], rfl, .refl _, .nil⟩
  | [k], _ => exact ⟨[k], rfl, .refl _, List.pairwise_singleton _ _⟩
  | k :: l :: ks, all =>
    obtain ⟨falling, compared⟩ : ∃ falling, decide (rank l < rank k) = falling := ⟨_, rfl⟩
    have first := told l k (all l (by simp)) (all k (by simp))
    rw [compared] at first
    have later : ∀ x ∈ ks, P x := fun x mem => all x (by simp [mem])
    obtain ⟨ahead, behind, runs, whole, chain⟩ := runSplits told falling (all l (by simp)) later
    have start : (k :: l :: ahead).Pairwise (Follows rank falling) :=
      List.isChain_iff_pairwise.mp (.cons_cons (followsIff.mp compared) chain)
    obtain ⟨turned, ascending⟩ := turnedAscends start
    have same : (behind ++ if falling then (k :: l :: ahead).reverse else k :: l :: ahead).Perm
        (k :: l :: ks) := by
      refine (turned.append_left behind).trans (List.perm_append_comm.trans ?_)
      rw [List.cons_append, List.cons_append, whole]
    obtain ⟨ls, done, perm, last⟩ :=
      insertAllAscends told behind (fun x mem => all x (same.subset mem)) ascending
    refine ⟨ls, ?_, perm.trans same, last⟩
    simp only [sort, first, bind, Except.bind, runs]
    exact done

end

end FlowDouble.Sorting
