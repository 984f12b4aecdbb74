import FlowDouble.Proofs.Text.Blocks
import Mathlib.Algebra.Order.Field.Rat
import Mathlib.Algebra.Order.Group.Multiset
import Mathlib.Data.Multiset.UnionInter
import Mathlib.Data.Prod.Lex
import Mathlib.Data.String.Basic
import Mathlib.Tactic.GCongr
import Mathlib.Tactic.Positivity
/-! How alike two texts are, as a rational number, and the candidate that is most alike to a name. To
count the characters that two texts share, in whatever order, never makes them less alike, so it may be
done first to pass over a candidate. -/
namespace FlowDouble.Text

def ratio (found total : Nat) : ℚ := if total = 0 then 1 else 2 * found / total

def Similar (a b : String) (q : ℚ) : Prop :=
  ∃ m, Matches a.toList b.toList m ∧ q = ratio m (a.length + b.length)

def Likeness.value (x : Likeness) : ℚ := x.part / x.whole

def similarity (a b : String) : ℚ := (likeness a b).value

variable {name a b c d : String} {cs : List String} {q : ℚ}

theorem similarIff : Similar a b q ↔ similarity a b = q := by
  have value : similarity a b = ratio (matched a.toList b.toList) (a.length + b.length) := by
    unfold similarity likeness ratio Likeness.value
    by_cases empty : a.length + b.length = 0
    · simp only [empty, if_true, Nat.cast_one, div_one]
    · simp only [empty, if_false, Nat.cast_mul, Nat.cast_ofNat]
  rw [value]
  constructor
  · rintro ⟨m, found, rfl⟩
    rw [matchesIff.mp found]
  · rintro rfl
    exact ⟨_, matchedMatches _ _, rfl⟩

theorem wholePositive (a b : String) : 0 < (likeness a b).whole := by
  unfold likeness
  by_cases empty : a.length + b.length = 0
  · simp [empty]
  · simp only [empty, if_false]
    exact Nat.pos_of_ne_zero empty

theorem Likeness.leIff {x y : Likeness} (hx : 0 < x.whole) (hy : 0 < y.whole) :
    x.le y = true ↔ x.value ≤ y.value := by
  have left : (0 : ℚ) < x.whole := by exact_mod_cast hx
  have right : (0 : ℚ) < y.whole := by exact_mod_cast hy
  unfold Likeness.le Likeness.value
  rw [div_le_div_iff₀ left right, decide_eq_true_iff]
  exact_mod_cast Iff.rfl

theorem closeIff : threshold.le (likeness c name) = true ↔ 3 / 5 ≤ similarity c name :=
  Likeness.leIff (by decide) (wholePositive c name)

theorem notMoreAlikeIff :
    (likeness c name).le (likeness d name) = true ↔ similarity c name ≤ similarity d name :=
  Likeness.leIff (wholePositive c name) (wholePositive d name)

def rank (name c : String) : ℚ ×ₗ String := toLex (similarity c name, c)

theorem preferredRank : preferred name c d = if rank name c < rank name d then d else c := by
  have ahead : ((likeness c name).le (likeness d name) &&
      (!(likeness d name).le (likeness c name) || c < d)) = true ↔ rank name c < rank name d := by
    unfold rank
    rw [Prod.Lex.toLex_lt_toLex, Bool.and_eq_true, Bool.or_eq_true, Bool.not_eq_true',
      Bool.eq_false_iff, decide_eq_true_iff, ne_eq, notMoreAlikeIff, notMoreAlikeIff, not_le]
    constructor
    · rintro ⟨least, more | later⟩
      · exact .inl more
      · rcases lt_or_eq_of_le least with more | same
        · exact .inl more
        · exact .inr ⟨same, later⟩
    · rintro (more | ⟨same, later⟩)
      · exact ⟨le_of_lt more, .inl more⟩
      · exact ⟨le_of_eq same, .inr later⟩
  unfold preferred
  exact if_congr ahead rfl rfl

theorem mostPreferred (name c : String) (cs : List String) :
    cs.foldl (preferred name) c ∈ c :: cs ∧
      ∀ d ∈ c :: cs, rank name d ≤ rank name (cs.foldl (preferred name) c) := by
  induction cs generalizing c with
  | nil => simp
  | cons d cs ih =>
    obtain ⟨among, most⟩ := ih (preferred name c d)
    have first := most _ List.mem_cons_self
    have later : ∀ e ∈ cs, rank name e ≤ rank name (cs.foldl (preferred name) (preferred name c d)) :=
      fun e mem => most e (List.mem_cons_of_mem _ mem)
    rw [preferredRank] at among first later
    rw [List.foldl_cons, preferredRank]
    by_cases more : rank name c < rank name d
    · rw [if_pos more] at among first later ⊢
      refine ⟨List.mem_cons_of_mem _ among, ?_⟩
      simp only [List.forall_mem_cons]
      exact ⟨le_trans (le_of_lt more) first, first, later⟩
    · rw [if_neg more] at among first later ⊢
      refine ⟨?_, ?_⟩
      · rcases List.mem_cons.mp among with same | inside
        · rw [same]
          exact List.mem_cons_self
        · exact List.mem_cons_of_mem _ (List.mem_cons_of_mem _ inside)
      · simp only [List.forall_mem_cons]
        exact ⟨first, le_trans (le_of_not_gt more) first, later⟩

/-- The candidate most alike to a name, the greatest of those that are equally alike. It is close to
the name. -/
structure Closest (name : String) (cs : List String) (c : String) : Prop where
  candidate : c ∈ cs
  close : ∃ q, Similar c name q ∧ 3 / 5 ≤ q
  most : ∀ d ∈ cs, ∀ p q, Similar c name p → Similar d name q → q ≤ p ∧ (q = p → d ≤ c)

theorem closestIs (found : closest name cs = some c) : Closest name cs c := by
  unfold closest at found
  cases near : cs.filter fun d => threshold.le (likeness d name) with
  | nil =>
    rw [near] at found
    contradiction
  | cons d ds =>
    rw [near] at found
    obtain ⟨among, most⟩ := mostPreferred name d ds
    obtain rfl := Option.some.inj found
    rw [← near] at among most
    obtain ⟨candidate, close⟩ := List.mem_filter.mp among
    have close := closeIff.mp close
    refine ⟨candidate, ⟨_, similarIff.mpr rfl, close⟩, fun e mem p q hp hq => ?_⟩
    obtain rfl := similarIff.mp hp
    obtain rfl := similarIff.mp hq
    by_cases far : 3 / 5 ≤ similarity e name
    · have ranked := most e (List.mem_filter.mpr ⟨mem, closeIff.mpr far⟩)
      unfold rank at ranked
      rcases Prod.Lex.toLex_le_toLex.mp ranked with less | ⟨same, before⟩
      · exact ⟨le_of_lt less, fun same => absurd same (ne_of_lt less)⟩
      · exact ⟨le_of_eq same, fun _ => before⟩
    · have less := lt_of_lt_of_le (not_le.mp far) close
      exact ⟨le_of_lt less, fun same => absurd same (ne_of_lt less)⟩

theorem closestSome : (closest name cs).isSome = true ↔
    ∃ c ∈ cs, ∃ q, Similar c name q ∧ 3 / 5 ≤ q := by
  have some : (closest name cs).isSome = true ↔
      (cs.filter fun c => threshold.le (likeness c name)) ≠ [] := by
    unfold closest
    cases cs.filter fun c => threshold.le (likeness c name) <;> simp
  rw [some, Ne, List.filter_eq_nil_iff]
  push Not
  constructor
  · rintro ⟨c, mem, close⟩
    exact ⟨c, mem, _, similarIff.mpr rfl, closeIff.mp close⟩
  · rintro ⟨c, mem, q, similar, close⟩
    obtain rfl := similarIff.mp similar
    exact ⟨c, mem, closeIff.mpr close⟩

def shared (a b : List Char) : Nat := Multiset.card ((a : Multiset Char) ∩ b)

theorem matchesShared {a b : List Char} {n : Nat} (found : Matches a b n) : n ≤ shared a b := by
  have parts (l : List Char) (i n : Nat) :
      (l : Multiset Char) = l.take i + (l.drop i).take n + l.drop (i + n) := by
    rw [Multiset.coe_add, Multiset.coe_add, List.append_assoc, ← List.drop_drop,
      List.take_append_drop, List.take_append_drop]
  induction found with
  | none => exact Nat.zero_le _
  | @block a b x m n longest some _ _ before after =>
    have length : ((a.drop x.left).take x.size).length = x.size := by
      have inLeft := longest.common.inLeft
      rw [List.length_take, List.length_drop]
      omega
    have inside : (((a.take x.left : List Char) : Multiset Char) ∩ (b.take x.right : List Char)) +
        ((a.drop x.left).take x.size : List Char) +
        (((a.drop (x.left + x.size) : List Char) : Multiset Char) ∩
          (b.drop (x.right + x.size) : List Char)) ≤ (a : Multiset Char) ∩ b := by
      refine Multiset.le_inter ?_ ?_
      · rw [parts a x.left x.size]
        exact add_le_add (add_le_add Multiset.inter_le_left le_rfl) Multiset.inter_le_left
      · rw [parts b x.right x.size, ← longest.common.same]
        exact add_le_add (add_le_add Multiset.inter_le_right le_rfl) Multiset.inter_le_right
    have cards := Multiset.card_le_card inside
    rw [Multiset.card_add, Multiset.card_add, Multiset.coe_card, length] at cards
    unfold shared at before after ⊢
    omega

theorem sharedWithin (a b : List Char) : shared a b ≤ min a.length b.length :=
  le_min (Multiset.card_le_card Multiset.inter_le_left)
    (Multiset.card_le_card Multiset.inter_le_right)

theorem ratioMono {m n : Nat} (fewer : m ≤ n) (total : Nat) : ratio m total ≤ ratio n total := by
  unfold ratio
  split
  · exact le_rfl
  · gcongr

def promising (name c : String) : Bool :=
  3 / 5 ≤ ratio (min c.length name.length) (c.length + name.length) &&
    3 / 5 ≤ ratio (shared c.toList name.toList) (c.length + name.length)

theorem closePromising (similar : Similar c name q) (close : 3 / 5 ≤ q) : promising name c = true := by
  obtain ⟨m, found, rfl⟩ := similar
  have bounded := matchesShared found
  have within := sharedWithin c.toList name.toList
  have counted := ratioMono bounded (c.length + name.length)
  have measured := ratioMono within (c.length + name.length)
  unfold promising
  simp only [Bool.and_eq_true, decide_eq_true_eq]
  exact ⟨le_trans close (le_trans counted measured), le_trans close counted⟩

theorem closestPromising (name : String) (cs : List String) :
    closest name (cs.filter (promising name)) = closest name cs := by
  have implied (c : String) : (threshold.le (likeness c name) && promising name c) =
      threshold.le (likeness c name) := by
    cases close : threshold.le (likeness c name) with
    | false => rfl
    | true => exact closePromising (similarIff.mpr rfl) (closeIff.mp close)
  unfold closest
  rw [List.filter_filter]
  simp only [implied]

end FlowDouble.Text
