import FlowDouble.Text.Similarity
import Mathlib.Data.List.Basic
/-! The longest block that two texts have in common, found by looking at every pair of places in
turn: no block they have in common is longer, and none as long begins further to the left. -/
namespace FlowDouble.Text

theorem startsAlike {a b : List Char} {n : Nat} :
    n ≤ commonStart a b ↔ n ≤ a.length ∧ n ≤ b.length ∧ a.take n = b.take n := by
  induction a generalizing b n with
  | nil => cases n <;> simp [commonStart]
  | cons x a ih =>
    cases b with
    | nil => cases n <;> simp [commonStart]
    | cons y b =>
      cases n with
      | zero => simp
      | succ n =>
        by_cases same : x = y
        · simp [commonStart, same, ih]
        · simp [commonStart, same]

def alikeFrom (a b : List Char) (i j : Nat) : Nat := commonStart (a.drop i) (b.drop j)

theorem alikeBeyond {a b : List Char} {i j : Nat} (beyond : a.length ≤ i ∨ b.length ≤ j) :
    alikeFrom a b i j = 0 := by
  unfold alikeFrom
  rcases beyond with left | right
  · rw [List.drop_eq_nil_of_le left]
    rfl
  · rw [List.drop_eq_nil_of_le right]
    cases a.drop i <;> rfl

def Before (i j k l : Nat) : Prop := i < k ∨ i = k ∧ j < l

namespace Block

structure Common (a b : List Char) (x : Block) : Prop where
  inLeft : x.left + x.size ≤ a.length
  inRight : x.right + x.size ≤ b.length
  same : (a.drop x.left).take x.size = (b.drop x.right).take x.size

structure Longest (a b : List Char) (x : Block) : Prop where
  common : Common a b x
  longest : ∀ y, Common a b y → y.size ≤ x.size
  leftmost : ∀ y, Common a b y → y.size = x.size → ¬ Before y.left y.right x.left x.right

variable {a b : List Char} {x y : Block}

theorem commonIff : x.Common a b ↔
    x.left ≤ a.length ∧ x.right ≤ b.length ∧ x.size ≤ alikeFrom a b x.left x.right := by
  unfold alikeFrom
  rw [startsAlike, List.length_drop, List.length_drop]
  constructor
  · rintro ⟨inLeft, inRight, same⟩
    exact ⟨by omega, by omega, by omega, by omega, same⟩
  · rintro ⟨left, right, inLeft, inRight, same⟩
    exact ⟨by omega, by omega, same⟩

theorem longestUnique (hx : x.Longest a b) (hy : y.Longest a b) : x = y := by
  have size := Nat.le_antisymm (hy.longest x hx.common) (hx.longest y hy.common)
  have first := hx.leftmost y hy.common size.symm
  have second := hy.leftmost x hx.common size
  obtain ⟨i, j, n⟩ := x
  obtain ⟨k, l, m⟩ := y
  simp only [Before] at size first second
  have left : i = k := by omega
  have right : j = l := by omega
  rw [left, right, size]

structure Leads (a b : List Char) (i j : Nat) (x : Block) : Prop where
  alike : x.size ≤ alikeFrom a b x.left x.right
  passed : ¬ Before i j x.left x.right
  longest : ∀ k l, Before k l i j → alikeFrom a b k l ≤ x.size
  first : ∀ k l, Before k l i j → alikeFrom a b k l = x.size → ¬ Before k l x.left x.right

variable {i j : Nat}

theorem leadsStep (leads : x.Leads a b i j) :
    (x.orLonger ⟨i, j, alikeFrom a b i j⟩).Leads a b i (j + 1) := by
  have last {k l : Nat} (seen : Before k l i (j + 1)) : Before k l i j ∨ k = i ∧ l = j := by
    unfold Before at seen ⊢
    omega
  unfold orLonger
  split
  · rename_i longer
    refine ⟨Nat.le_refl _, by simp [Before], fun k l seen => ?_, fun k l seen same => ?_⟩
    · rcases last seen with earlier | ⟨rfl, rfl⟩
      · exact Nat.le_of_lt (Nat.lt_of_le_of_lt (leads.longest k l earlier) longer)
      · exact Nat.le_refl _
    · rcases last seen with earlier | ⟨rfl, rfl⟩
      · have shorter := Nat.lt_of_le_of_lt (leads.longest k l earlier) longer
        exact absurd same (Nat.ne_of_lt shorter)
      · simp [Before]
  · rename_i notLonger
    refine ⟨leads.alike, ?_, fun k l seen => ?_, fun k l seen same => ?_⟩
    · have passed := leads.passed
      unfold Before at passed ⊢
      omega
    · rcases last seen with earlier | ⟨rfl, rfl⟩
      · exact leads.longest k l earlier
      · exact Nat.le_of_not_lt notLonger
    · rcases last seen with earlier | ⟨rfl, rfl⟩
      · exact leads.first k l earlier same
      · exact leads.passed

theorem leadsRow (leads : x.Leads a b i j) {rest : List Char} (here : b.drop j = rest) :
    (bestAt i (a.drop i) j rest x).Leads a b i (j + rest.length) := by
  induction rest generalizing j x with
  | nil => exact leads
  | cons c rest ih =>
    have next : b.drop (j + 1) = rest := by
      rw [← List.drop_drop, here]
      rfl
    have found : commonStart (a.drop i) (c :: rest) = alikeFrom a b i j := by
      unfold alikeFrom
      rw [here]
    rw [bestAt, found, List.length_cons, Nat.add_comm rest.length 1, ← Nat.add_assoc]
    exact ih (leadsStep leads) next

theorem leadsOn (leads : x.Leads a b i j) (ended : b.length ≤ j) : x.Leads a b (i + 1) 0 := by
  have split {k l : Nat} (seen : Before k l (i + 1) 0) :
      Before k l i j ∨ (k = i ∧ j ≤ l) ∧ alikeFrom a b k l = 0 := by
    by_cases earlier : Before k l i j
    · exact .inl earlier
    · unfold Before at seen earlier
      exact .inr ⟨by omega, alikeBeyond (.inr (by omega))⟩
  refine ⟨leads.alike, ?_, fun k l seen => ?_, fun k l seen same => ?_⟩
  · have passed := leads.passed
    unfold Before at passed ⊢
    omega
  · rcases split seen with earlier | ⟨_, none⟩
    · exact leads.longest k l earlier
    · rw [none]
      exact Nat.zero_le _
  · rcases split seen with earlier | ⟨place, _⟩
    · exact leads.first k l earlier same
    · have passed := leads.passed
      unfold Before at passed ⊢
      omega

theorem leadsRows (leads : x.Leads a b i 0) {rest : List Char} (here : a.drop i = rest) :
    (bestFrom b i rest x).Leads a b (i + rest.length) 0 := by
  induction rest generalizing i x with
  | nil => exact leads
  | cons c rest ih =>
    have next : a.drop (i + 1) = rest := by
      rw [← List.drop_drop, here]
      rfl
    have row : (bestAt i (a.drop i) 0 b x).Leads a b i (0 + b.length) := leadsRow leads rfl
    rw [here, Nat.zero_add] at row
    rw [bestFrom, List.length_cons, Nat.add_comm rest.length 1, ← Nat.add_assoc]
    exact ih (leadsOn row (Nat.le_refl _)) next

theorem leadsAll (leads : x.Leads a b a.length 0) (k l : Nat) :
    alikeFrom a b k l ≤ x.size ∧
      (alikeFrom a b k l = x.size → ¬ Before k l x.left x.right) := by
  by_cases inside : k < a.length
  · exact ⟨leads.longest k l (.inl inside), leads.first k l (.inl inside)⟩
  · have passed := leads.passed
    rw [alikeBeyond (.inl (Nat.le_of_not_lt inside))]
    refine ⟨Nat.zero_le _, fun _ => ?_⟩
    unfold Before at passed ⊢
    omega

theorem longestFound (a b : List Char) : (longestBlock a b).Longest a b := by
  have start : Leads a b 0 0 ⟨0, 0, 0⟩ :=
    ⟨Nat.zero_le _, by simp [Before], fun k l seen => by simp [Before] at seen,
      fun k l seen => by simp [Before] at seen⟩
  have leads : (longestBlock a b).Leads a b (0 + a.length) 0 := leadsRows start rfl
  rw [Nat.zero_add] at leads
  have all := leadsAll leads
  generalize longestBlock a b = x at leads all
  have left : x.left ≤ a.length := by
    have passed := leads.passed
    unfold Before at passed
    omega
  -- a block of no characters is the one that is there before any is found
  have right : x.right ≤ b.length := by
    have origin := all 0 0
    have alike := leads.alike
    by_cases beyond : b.length ≤ x.right
    · rw [alikeBeyond (.inr beyond)] at alike
      have first := origin.2 (by omega)
      unfold Before at first
      omega
    · exact Nat.le_of_not_le beyond
  refine ⟨commonIff.mpr ⟨left, right, leads.alike⟩, fun y common => ?_, fun y common same => ?_⟩
  · exact Nat.le_trans (commonIff.mp common).2.2 (all y.left y.right).1
  · have alike := (commonIff.mp common).2.2
    exact (all y.left y.right).2 (Nat.le_antisymm (all y.left y.right).1 (same ▸ alike))

end Block

/-- What two texts have in common: their longest block, if it has any characters, and what they have in
common on either side of it. -/
inductive Matches : List Char → List Char → Nat → Prop where
  | none {a b} (apart : ∀ x, Block.Common a b x → x.size = 0) : Matches a b 0
  | block {a b} {x : Block} {m n} (longest : x.Longest a b) (some : 0 < x.size)
      (before : Matches (a.take x.left) (b.take x.right) m)
      (after : Matches (a.drop (x.left + x.size)) (b.drop (x.right + x.size)) n) :
      Matches a b (x.size + m + n)

theorem matchesNothing {a b : List Char} (empty : a = [] ∨ b = []) : Matches a b 0 := by
  refine .none fun x common => ?_
  have inLeft := common.inLeft
  have inRight := common.inRight
  rcases empty with rfl | rfl
  · exact Nat.le_zero.mp (Nat.le_trans (Nat.le_add_left _ _) inLeft)
  · exact Nat.le_zero.mp (Nat.le_trans (Nat.le_add_left _ _) inRight)

theorem matchedMatches (a b : List Char) : Matches a b (matched a b) := by
  fun_induction matched a b with
  | case1 a b k none =>
    refine .none fun x common => ?_
    have longest := (Block.longestFound a b).longest x common
    exact Nat.le_zero.mp (none ▸ longest)
  | case2 a b k some before after =>
    exact .block (Block.longestFound a b) (Nat.pos_of_ne_zero some) before after

theorem matchesUnique {a b : List Char} {m n : Nat} (hm : Matches a b m) (hn : Matches a b n) :
    m = n := by
  induction hm generalizing n with
  | none apart =>
    cases hn with
    | none => rfl
    | block longest some => exact absurd (apart _ longest.common) (Nat.ne_of_gt some)
  | block longest some _ _ before after =>
    cases hn with
    | none apart => exact absurd (apart _ longest.common) (Nat.ne_of_gt some)
    | block longest' some' before' after' =>
      cases Block.longestUnique longest longest'
      rw [before before', after after']

theorem matchesIff {a b : List Char} {n : Nat} : Matches a b n ↔ matched a b = n :=
  ⟨matchesUnique (matchedMatches a b), fun same => same ▸ matchedMatches a b⟩

end FlowDouble.Text
