import FlowDouble.Proofs.Numbers.Decimals
import Mathlib.Data.List.Forall2
/-! However a whole number is spelled, with zeros ahead, underscores between its digits, a plus sign or
white space around, it is written as a number is. -/
namespace FlowDouble.Numeral

open Text (digit? isBlank)

inductive Spaced : List Char → List Char → Prop where
  | last (c : Char) : Spaced [c] [c]
  | next {cs body : List Char} (c : Char) (rest : Spaced cs body) : Spaced (c :: cs) (c :: body)
  | apart {cs body : List Char} (c : Char) (rest : Spaced cs body) :
      Spaced (c :: cs) (c :: '_' :: body)

inductive Spells (n : Int) : List Char → Prop where
  | number {before sign body after : List Char} {zeros : Nat}
      (ahead : ∀ c ∈ before, isBlank c = true) (marked : Sign sign (n < 0))
      (spaced : Spaced (List.replicate zeros '0' ++ n.natAbs.repr.toList) body)
      (behind : ∀ c ∈ after, isBlank c = true) :
      Spells n (before ++ (sign ++ (body ++ after)))

abbrev Are (cs : List Char) (ds : List Nat) : Prop :=
  List.Forall₂ (fun c d => digit? c = some d) cs ds

theorem spacedNothing {cs : List Char} (some : cs ≠ []) : Spaced cs cs := by
  induction cs with
  | nil => contradiction
  | cons c cs ih =>
    cases cs with
    | nil => exact .last c
    | cons c' cs => exact .next c (ih (by simp))

theorem toStringNegative (m : Nat) :
    (toString (Int.negSucc m)).toList = '-' :: (m + 1).repr.toList := String.toList_append

theorem spellsItself (n : Int) : Spells n (toString n).toList := by
  have spaced (m : Nat) : Spaced (List.replicate 0 '0' ++ m.repr.toList) m.repr.toList := by
    refine spacedNothing ?_
    rw [Nat.toList_repr]
    exact Nat.toDigits_ne_nil
  have blank : ∀ c ∈ ([] : List Char), isBlank c = true := fun c mem => by contradiction
  cases n with
  | ofNat m =>
    have marked : Sign [] (Int.ofNat m < 0) := by
      have positive : ¬ Int.ofNat m < 0 := Int.not_lt.mpr (Int.natCast_nonneg m)
      rw [decide_eq_false positive]
      exact .none
    have spells := Spells.number blank marked (spaced m) blank
    rwa [List.append_nil] at spells
  | negSucc m =>
    have marked : Sign ['-'] (Int.negSucc m < 0) := by
      rw [decide_eq_true (Int.negSucc_lt_zero m)]
      exact .minus
    have spells := Spells.number blank marked (spaced (m + 1)) blank
    rw [List.append_nil] at spells
    exact toStringNegative m ▸ spells

theorem spacedGrouped {cs body : List Char} {ds : List Nat} (spaced : Spaced cs body)
    (are : Are cs ds) : Grouped digit? body ds := by
  induction spaced generalizing ds with
  | last c =>
    cases are with
    | cons value rest =>
      cases rest
      exact .last value
  | next c rest ih =>
    cases are with
    | cons value are => exact .next value (ih are)
  | apart c rest ih =>
    cases are with
    | cons value are => exact .apart value (ih are)

theorem digitCharsRead : ∀ d < 10, digit? d.digitChar = some d := by decide

theorem reprDigits (n : Nat) :
    ∃ ds, Are n.repr.toList ds ∧ Nat.ofDigits 10 ds.reverse = n := by
  rw [Nat.toList_repr]
  induction n using Nat.strongRecOn with
  | ind n ih =>
    rw [Nat.toDigits_eq_if (by decide)]
    by_cases single : n < 10
    · rw [if_pos single]
      exact ⟨[n], .cons (digitCharsRead n single) .nil, by simp⟩
    · rw [if_neg single]
      obtain ⟨ds, are, value⟩ := ih (n / 10) (by omega)
      have last := digitCharsRead (n % 10) (Nat.mod_lt n (by decide))
      refine ⟨ds ++ [n % 10], List.rel_append are (.cons last .nil), ?_⟩
      rw [List.reverse_append, List.reverse_singleton, List.singleton_append, Nat.ofDigits_cons,
        value]
      exact Nat.mod_add_div n 10

theorem toStringChars {n : Int} {c : Char} (mem : c ∈ (toString n).toList) :
    c = '-' ∨ c ∈ n.natAbs.repr.toList := by
  cases n with
  | ofNat m => exact .inr mem
  | negSucc m =>
    rw [toStringNegative] at mem
    exact List.mem_cons.mp mem

theorem toStringBare (n : Int) : ∀ c ∈ (toString n).toList, separates c = false := by
  intro c mem
  rcases toStringChars mem with rfl | inside
  · decide
  · rw [Nat.toList_repr] at inside
    have digit := Nat.isDigit_of_mem_toDigits (by decide) (by decide) inside
    rw [Char.isDigit_iff_toNat] at digit
    have low : '0'.toNat = 0x30 := rfl
    simp only [separates, Bool.and_eq_false_iff, decide_eq_false_iff_not]
    omega

theorem toStringFew {n : Int} {k : Nat} (some : 0 < k) (below : n.natAbs < 10 ^ k) :
    digits digit? (toString n).toList ≤ k := by
  -- the sign is no digit
  have repr : digits digit? (toString n).toList ≤ n.natAbs.repr.toList.length := by
    unfold digits
    cases n with
    | ofNat m => exact List.countP_le_length
    | negSucc m =>
      rw [toStringNegative, List.countP_cons_of_neg (by decide)]
      exact List.countP_le_length
  rw [Nat.toList_repr] at repr
  exact Nat.le_trans repr (Nat.toDigits_length 10 _ k some below)

theorem zerosAhead (zeros : Nat) {cs : List Char} {ds : List Nat} (are : Are cs ds) :
    ∃ ds', Are (List.replicate zeros '0' ++ cs) ds' ∧
      Nat.ofDigits 10 ds'.reverse = Nat.ofDigits 10 ds.reverse := by
  induction zeros with
  | zero => exact ⟨ds, are, rfl⟩
  | succ zeros ih =>
    obtain ⟨ds', more, value⟩ := ih
    refine ⟨0 :: ds', .cons (by decide) more, ?_⟩
    rw [← value, List.reverse_cons, Nat.ofDigits_append]
    simp

theorem signedSelf {n : Int} {ds : List Nat} (same : Nat.ofDigits 10 ds.reverse = n.natAbs) :
    signed (n < 0) ds = n := by
  unfold signed
  rw [same]
  by_cases negative : n < 0
  · simp only [negative, decide_true, if_true]
    omega
  · simp only [negative, decide_false, Bool.false_eq_true, if_false]
    omega

theorem spelledWritten {n : Int} {cs : List Char} (spells : Spells n cs) :
    Writes isBlank digit? cs n := by
  cases spells with
  | @number before sign body after zeros ahead marked spaced behind =>
    obtain ⟨ds, are, value⟩ := reprDigits n.natAbs
    obtain ⟨ds', more, same⟩ := zerosAhead zeros are
    rw [value] at same
    have grouped := spacedGrouped spaced more
    have written := Writes.number ahead marked grouped behind
    rwa [signedSelf same] at written

end FlowDouble.Numeral
