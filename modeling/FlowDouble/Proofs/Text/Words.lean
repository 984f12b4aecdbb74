import FlowDouble.Text.CharSet
import FlowDouble.Text.LetterCase
import Mathlib.Data.List.TakeWhile
/-! Words without regard to case and to white space around them. In lower case, as the full tables
have it, a capital becomes a plain letter, and so do two characters that are no plain capitals. No word
here has what those two become. -/
namespace FlowDouble.Text

section
variable {p : Char → Bool} {cs before after : List Char}

theorem trimWherePadded (ahead : ∀ c ∈ before, p c = true) (behind : ∀ c ∈ after, p c = true)
    (cs : List Char) : trimWhere p (before ++ (cs ++ after)) = trimWhere p cs := by
  unfold trimWhere
  rw [List.dropWhile_append_of_pos ahead, List.dropWhile_append]
  cases left : cs.dropWhile p with
  | nil =>
    rw [List.isEmpty_nil, if_pos rfl, List.dropWhile_eq_nil_iff.mpr behind]
  | cons c rest =>
    rw [List.isEmpty_cons, if_neg (by decide), List.reverse_append,
      List.dropWhile_append_of_pos fun c mem => behind c (List.mem_reverse.mp mem)]

theorem trimWhereParts (p : Char → Bool) (cs : List Char) :
    ∃ before after, (∀ c ∈ before, p c = true) ∧ (∀ c ∈ after, p c = true) ∧
      cs = before ++ (trimWhere p cs ++ after) := by
  let rest := (cs.dropWhile p).reverse
  refine ⟨cs.takeWhile p, (rest.takeWhile p).reverse, fun c mem => List.mem_takeWhile_imp mem,
    fun c mem => List.mem_takeWhile_imp (List.mem_reverse.mp mem), ?_⟩
  have whole : (rest.dropWhile p).reverse ++ (rest.takeWhile p).reverse = cs.dropWhile p := by
    rw [← List.reverse_append, List.takeWhile_append_dropWhile, List.reverse_reverse]
  have trimmed : trimWhere p cs = (rest.dropWhile p).reverse := rfl
  rw [trimmed, whole, List.takeWhile_append_dropWhile]

theorem trimWhereSolid (solid : ∀ c ∈ cs, p c = false) : trimWhere p cs = cs := by
  have none (xs : List Char) (all : ∀ c ∈ xs, p c = false) : xs.dropWhile p = xs := by
    cases xs with
    | nil => rfl
    | cons c rest =>
      exact List.dropWhile_cons_of_neg (Bool.eq_false_iff.mp (all c List.mem_cons_self))
  unfold trimWhere
  rw [none cs solid, none _ fun c mem => solid c (List.mem_reverse.mp mem), List.reverse_reverse]

theorem trimWhereMap {f : Char → Char} (same : ∀ c, p (f c) = p c) (cs : List Char) :
    trimWhere p (cs.map f) = (trimWhere p cs).map f := by
  have composed : p ∘ f = p := funext same
  unfold trimWhere
  rw [List.dropWhile_map, composed, ← List.map_reverse, List.dropWhile_map, composed,
    ← List.map_reverse]

end

def letters : List Char := "trueonyfals10".toList

theorem lettersBetween : ∀ c ∈ letters, 0x30 ≤ c.toNat ∧ c.toNat < 0x80 := by
  -- Decided over the list: there are instances that go through all characters instead.
  have all : letters.all fun c => decide (0x30 ≤ c.toNat ∧ c.toNat < 0x80) := by decide
  simpa only [List.all_eq_true, decide_eq_true_eq] using all

theorem asciiLower : ∀ n < 0x80, lowerChar (Char.ofNat n) = [(Char.ofNat n).toLower] ∧
    isBlank (Char.ofNat n).toLower = isBlank (Char.ofNat n) := by
  decide +kernel

theorem runsApart : ∀ r ∈ lowerRuns, r.last < 0x80 ∨ r = ⟨0x212a, 0x212a, 1, -8383⟩ ∨
    0x80 ≤ (r.first : Int) + r.shift := by
  decide +kernel

theorem lettersPlain : ∀ c ∈ letters, isBlank c = false ∧ c.toLower = c := by
  have all : letters.all fun c => decide (isBlank c = false ∧ c.toLower = c) := by decide
  simpa only [List.all_eq_true, decide_eq_true_eq] using all

theorem foreignStays {c : Char} (foreign : 0x80 ≤ c.toNat) : c.toLower = c := by
  unfold Char.toLower
  refine dif_neg fun capital => ?_
  have low : c.toNat ≤ 'Z'.toNat := capital.2
  exact absurd (Nat.le_trans foreign low) (by decide)

theorem blankLower (c : Char) : isBlank c.toLower = isBlank c := by
  by_cases ascii : c.toNat < 0x80
  · have same := (asciiLower c.toNat ascii).2
    rwa [Char.ofNat_toNat] at same
  · rw [foreignStays (Nat.le_of_not_lt ascii)]

theorem farNoLetter {n : Nat} (far : 0x80 ≤ n) : Char.ofNat n ∉ letters := by
  have made : (Char.ofNat n).toNat = n ∨ (Char.ofNat n).toNat = 0 := by
    unfold Char.ofNat
    by_cases valid : n.isValidChar
    · rw [dif_pos valid]
      exact .inl rfl
    · rw [dif_neg valid]
      exact .inr rfl
  intro mem
  have between := lettersBetween _ mem
  omega

theorem foreignLower {c : Char} (foreign : 0x80 ≤ c.toNat) : ∃ x ∈ lowerChar c, x ∉ letters := by
  unfold lowerChar
  by_cases dotted : c.toNat = 0x130
  · rw [if_pos dotted]
    exact ⟨Char.ofNat 0x307, by simp, farNoLetter (by decide)⟩
  · rw [if_neg dotted]
    refine ⟨_, List.mem_singleton_self _, ?_⟩
    unfold shiftBy
    cases found : lowerRuns.find? (·.covers c) with
    | none =>
      have itself := farNoLetter foreign
      rwa [Char.ofNat_toNat] at itself
    | some r =>
      have covered := List.find?_some found
      simp only [CaseRun.covers, Bool.and_eq_true, decide_eq_true_eq] at covered
      obtain ⟨⟨first, last⟩, _⟩ := covered
      rcases runsApart r (List.mem_of_find?_eq_some found) with ascii | rfl | far
      · omega
      · have same : c.toNat = 0x212a := Nat.le_antisymm last first
        simp only [same]
        decide
      · exact farNoLetter (by omega)

theorem lowerVariant {word : List Char} (lettered : ∀ c ∈ word, c ∈ letters) (cs : List Char) :
    lower cs = word ↔ cs.map Char.toLower = word := by
  induction cs generalizing word with
  | nil => exact Iff.rfl
  | cons c cs ih =>
    have split : lower (c :: cs) = lowerChar c ++ lower cs := rfl
    rw [split, List.map_cons]
    by_cases ascii : c.toNat < 0x80
    · have own := (asciiLower c.toNat ascii).1
      rw [Char.ofNat_toNat] at own
      rw [own, List.singleton_append]
      cases word with
      | nil => simp
      | cons d word =>
        have rest : ∀ x ∈ word, x ∈ letters := fun x mem => lettered x (List.mem_cons_of_mem _ mem)
        rw [List.cons.injEq, List.cons.injEq, ih rest]
    · -- A foreign character keeps either side from being the word.
      have foreign := Nat.le_of_not_lt ascii
      constructor
      · rintro rfl
        obtain ⟨x, mem, strange⟩ := foreignLower foreign
        exact absurd (lettered x (List.mem_append_left _ mem)) strange
      · rintro rfl
        have letter := lettered _ List.mem_cons_self
        rw [foreignStays foreign] at letter
        exact absurd (lettersBetween c letter).2 ascii

inductive Restyled (cs : List Char) : List Char → Prop where
  | padded {before body after : List Char} (ahead : ∀ c ∈ before, isBlank c = true)
      (same : body.map Char.toLower = cs.map Char.toLower) (behind : ∀ c ∈ after, isBlank c = true) :
      Restyled cs (before ++ (body ++ after))

theorem trimLower (cs : List Char) : trim (cs.map Char.toLower) = (trim cs).map Char.toLower :=
  trimWhereMap blankLower cs

theorem restyledTrims {cs cs' : List Char} (restyled : Restyled cs cs') :
    (trim cs').map Char.toLower = (trim cs).map Char.toLower := by
  cases restyled with
  | @padded before body after ahead same behind =>
    have trimmed : trim (before ++ (body ++ after)) = trim body :=
      trimWherePadded ahead behind body
    rw [trimmed, ← trimLower, same, trimLower]

theorem restyledWord {word : List Char} (lettered : ∀ c ∈ word, c ∈ letters) (cs : List Char) :
    Restyled word cs ↔ (trim cs).map Char.toLower = word := by
  have low : word.map Char.toLower = word := by
    rw [List.map_congr_left fun c mem => (lettersPlain c (lettered c mem)).2, List.map_id']
  constructor
  · intro restyled
    have solid : trim word = word :=
      trimWhereSolid fun c mem => (lettersPlain c (lettered c mem)).1
    rw [restyledTrims restyled, solid, low]
  · intro same
    obtain ⟨before, after, ahead, behind, parts⟩ := trimWhereParts isBlank cs
    rw [parts]
    exact .padded ahead (same.trans low.symm) behind

def Strange (cs : List Char) : Prop :=
  trim cs = [] ∨ ∃ c ∈ trim cs, isBlank c = true ∨ 0x80 ≤ c.toNat

theorem strangeNoWord {word cs : List Char} (some : word ≠ [])
    (lettered : ∀ c ∈ word, c ∈ letters) (strange : Strange cs) : ¬ Restyled word cs := by
  intro restyled
  have same := (restyledWord lettered cs).mp restyled
  rcases strange with none | ⟨c, mem, strange⟩
  · rw [none] at same
    exact some same.symm
  · have letter : c.toLower ∈ letters := lettered _ (same ▸ List.mem_map_of_mem mem)
    rcases strange with blank | foreign
    · have solid := (lettersPlain _ letter).1
      rw [blankLower, blank] at solid
      contradiction
    · rw [foreignStays foreign] at letter
      exact absurd (lettersBetween c letter).2 (Nat.not_lt.mpr foreign)

end FlowDouble.Text
