import FlowDouble.Number.Numeral
/-! Characters made plain keep what a number is read by: which are white space, which digits of which
value, and which signs and underscores. Only the information separators change sides. -/
namespace FlowDouble.Numeral

open Text (digit? isBlank blanks zeros)

def separates (c : Char) : Bool := 0x1c ≤ c.toNat && c.toNat ≤ 0x1f

theorem digitBelow {c : Char} {d : Nat} (value : digit? c = some d) : d < 10 := by
  simp only [digit?, Option.map_eq_some_iff] at value
  obtain ⟨z, found, rfl⟩ := value
  have inside := List.find?_some found
  simp only [Bool.and_eq_true, decide_eq_true_eq] at inside
  omega

theorem blanksApartFromDigits : ∀ r ∈ blanks, ∀ z ∈ zeros, r.2 < z ∨ z + 10 ≤ r.1 := by decide

theorem blankNoDigit {c : Char} (blank : isBlank c = true) : digit? c = none := by
  obtain ⟨r, mem, low, high⟩ := CharSet.hasIff.mp blank
  simp only [digit?, Option.map_eq_none_iff, List.find?_eq_none, Bool.and_eq_true,
    decide_eq_true_eq]
  intro z there inside
  have apart := blanksApartFromDigits r mem z there
  omega

inductive MadePlain (c : Char) : Char → Prop where
  | ascii (low : c.toNat < 0x7f) : MadePlain c c
  | blank (high : 0x7f ≤ c.toNat) (blank : isBlank c = true) : MadePlain c ' '
  | digit {d : Nat} (high : 0x7f ≤ c.toNat) (solid : isBlank c = false)
      (value : digit? c = some d) : MadePlain c (Char.ofNat (0x30 + d))
  | other (high : 0x7f ≤ c.toNat) (solid : isBlank c = false) (none : digit? c = none) :
      MadePlain c '?'

theorem plainMade (c : Char) : MadePlain c (plain c) := by
  unfold plain
  by_cases low : c.toNat < 0x7f
  · rw [if_pos low]
    exact .ascii low
  · rw [if_neg low]
    cases blank : isBlank c with
    | true => exact .blank (Nat.le_of_not_lt low) blank
    | false =>
      cases value : digit? c with
      | some d => exact .digit (Nat.le_of_not_lt low) blank value
      | none => exact .other (Nat.le_of_not_lt low) blank value

theorem asciiReads : ∀ n < 0x7f, digitIn? 10 (Char.ofNat n) = digit? (Char.ofNat n) ∧
    (separates (Char.ofNat n) = false → isSpace (Char.ofNat n) = isBlank (Char.ofNat n)) := by
  decide

theorem digitsPlain : ∀ d < 10, digitIn? 10 (Char.ofNat (0x30 + d)) = some d ∧
    isSpace (Char.ofNat (0x30 + d)) = false ∧ Char.ofNat (0x30 + d) ∉ ['_', '+', '-'] := by
  decide

theorem digitKept (c : Char) : digitIn? 10 (plain c) = digit? c := by
  have made := plainMade c
  generalize plain c = p at made ⊢
  cases made with
  | ascii low => simpa only [Char.ofNat_toNat] using (asciiReads c.toNat low).1
  | blank high blank => exact (blankNoDigit blank).symm
  | digit high solid value =>
    rw [value]
    exact (digitsPlain _ (digitBelow value)).1
  | other high solid none => exact none.symm

theorem spaceKept {c : Char} (bare : separates c = false) : isSpace (plain c) = isBlank c := by
  have made := plainMade c
  generalize plain c = p at made ⊢
  cases made with
  | ascii low =>
    have reads := (asciiReads c.toNat low).2
    rw [Char.ofNat_toNat] at reads
    exact reads bare
  | blank high blank => exact blank.symm
  | digit high solid value =>
    rw [solid]
    exact (digitsPlain _ (digitBelow value)).2.1
  | other high solid none => exact solid.symm

theorem markKept {c mark : Char} (known : mark ∈ ['_', '+', '-']) : plain c = mark ↔ c = mark := by
  have ascii : mark.toNat < 0x7f := by
    simp only [List.mem_cons, List.not_mem_nil, or_false] at known
    rcases known with rfl | rfl | rfl <;> decide
  have foreign (high : 0x7f ≤ c.toNat) : c ≠ mark := fun same => by
    rw [same] at high
    omega
  have apart (p : Char) (strange : p ∉ ['_', '+', '-']) : p ≠ mark := fun same =>
    strange (same ▸ known)
  have made := plainMade c
  generalize plain c = p at made ⊢
  cases made with
  | ascii low => exact Iff.rfl
  | blank high blank => simp [foreign high, apart ' ' (by decide)]
  | digit high solid value =>
    simp [foreign high, apart _ (digitsPlain _ (digitBelow value)).2.2]
  | other high solid none => simp [foreign high, apart '?' (by decide)]

end FlowDouble.Numeral
