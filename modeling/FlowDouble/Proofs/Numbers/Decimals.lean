import FlowDouble.Proofs.Numbers.Characters
import Mathlib.Data.List.TakeWhile
import Mathlib.Data.Nat.Digits.Defs
/-! What is read as a whole number: white space, a sign or none, digits with at most one underscore
between any two, and white space again. Whatever is written like that is read, unless it has too many
digits, and nothing else is. -/
namespace FlowDouble.Numeral

inductive Grouped (digit : Char → Option Nat) : List Char → List Nat → Prop where
  | last {c d} (value : digit c = some d) : Grouped digit [c] [d]
  | next {c d cs ds} (value : digit c = some d) (rest : Grouped digit cs ds) :
      Grouped digit (c :: cs) (d :: ds)
  | apart {c d cs ds} (value : digit c = some d) (rest : Grouped digit cs ds) :
      Grouped digit (c :: '_' :: cs) (d :: ds)

inductive Sign : List Char → Bool → Prop where
  | none : Sign [] false
  | plus : Sign ['+'] false
  | minus : Sign ['-'] true

def signed (negative : Bool) (ds : List Nat) : Int :=
  let n : Nat := Nat.ofDigits 10 ds.reverse
  if negative then -n else n

inductive Writes (space : Char → Bool) (digit : Char → Option Nat) : List Char → Int → Prop where
  | number {before sign body after : List Char} {negative : Bool} {ds : List Nat}
      (ahead : ∀ c ∈ before, space c = true) (marked : Sign sign negative)
      (grouped : Grouped digit body ds) (behind : ∀ c ∈ after, space c = true) :
      Writes space digit (before ++ (sign ++ (body ++ after))) (signed negative ds)

def digits (digit : Char → Option Nat) (cs : List Char) : Nat :=
  cs.countP fun c => (digit c).isSome

theorem groupedDigits {digit : Char → Option Nat} {cs : List Char} {ds : List Nat}
    (grouped : Grouped digit cs ds) : ds.length ≤ digits digit cs := by
  unfold digits
  induction grouped with
  | last value => simp [value]
  | next value rest ih => simpa [List.countP_cons, value] using ih
  | apart value rest ih =>
    simp only [List.countP_cons, value, List.length_cons]
    exact Nat.add_le_add_right (Nat.le_add_right_of_le ih) 1

theorem signedFolds (negative : Bool) (ds : List Nat) :
    (if negative then -(ofDigits 10 ds : Int) else ofDigits 10 ds) = signed negative ds := by
  have same : ofDigits 10 ds = Nat.ofDigits 10 ds.reverse := by
    rw [Nat.ofDigits_eq_foldr, List.foldr_reverse]
    unfold ofDigits
    congr 1
    funext n d
    simp [Nat.mul_comm, Nat.add_comm]
  rw [same]
  rfl

section
variable {base : Nat} {cs : List Char} {ds : List Nat}

theorem Grouped.startsWithDigit {digit : Char → Option Nat} (grouped : Grouped digit cs ds) :
    ∃ c d rest, cs = c :: rest ∧ digit c = some d := by
  cases grouped with
  | last value | next value | apart value => exact ⟨_, _, _, rfl, value⟩

theorem groupsIff (bare : digitIn? base '_' = none) :
    groups base cs = some ds ↔ Grouped (digitIn? base) cs ds := by
  constructor
  · intro read
    induction cs using groups.induct generalizing ds with
    | case1 => contradiction
    | case2 c =>
      obtain ⟨d, value, rfl⟩ := Option.map_eq_some_iff.mp read
      exact .last value
    | case3 c rest ih =>
      simp only [groups, Option.bind_eq_bind, Option.bind_eq_some_iff] at read
      obtain ⟨d, value, ds', later, same⟩ := read
      cases same
      exact .apart value (ih later)
    | case4 c rest more noMark ih =>
      simp only [groups, Option.bind_eq_bind, Option.bind_eq_some_iff] at read
      obtain ⟨d, value, ds', later, same⟩ := read
      cases same
      exact .next value (ih later)
  · intro grouped
    induction grouped with
    | last value => simp [groups, value]
    | @next c d cs ds value rest ih =>
      obtain ⟨c', d', cs', rfl, value'⟩ := rest.startsWithDigit
      have solid : c' ≠ '_' := fun same => by simp [same, bare] at value'
      rw [groups.eq_4 _ _ _ (by simp) (by simpa using solid)]
      simp [value, ih]
    | apart value rest ih => simp [groups, value, ih]

end

def inRun (c : Char) : Bool := c == '_' || (digitIn? 10 c).isSome

theorem readTen (cs : List Char) : (Radix.of 10).read cs =
    match groups 10 ((takeSign (cs.dropWhile isSpace)).2.takeWhile inRun) with
    | none => .error .malformed
    | some ds =>
      if 4300 < ds.length then .error (.tooLong ds.length 4300)
      else if ((takeSign (cs.dropWhile isSpace)).2.dropWhile inRun).all isSpace then
        .ok (signed (takeSign (cs.dropWhile isSpace)).1 ds)
      else .error .malformed := by
  have ten : Radix.of 10 = ⟨10, none, some 4300⟩ := by decide
  rw [ten]
  unfold Radix.read
  have whole (cs : List Char) : Radix.dropMarker ⟨10, none, some 4300⟩ cs = cs := by cases cs <;> rfl
  have run : (fun c => c == '_' || (digitIn? 10 c).isSome) = inRun := rfl
  simp only [whole, run]
  cases groups 10 ((takeSign (cs.dropWhile isSpace)).2.takeWhile inRun) with
  | none => rfl
  | some ds =>
    by_cases long : 4300 < ds.length
    · simp [long]
    · simp only [long, if_false, signedFolds]

theorem signTaken (cs : List Char) :
    ∃ sign, Sign sign (takeSign cs).1 ∧ cs = sign ++ (takeSign cs).2 := by
  unfold takeSign
  split
  · exact ⟨['-'], .minus, rfl⟩
  · exact ⟨['+'], .plus, rfl⟩
  · exact ⟨[], .none, rfl⟩

theorem readWrites {cs : List Char} {n : Int} (read : (Radix.of 10).read cs = .ok n) :
    Writes isSpace (digitIn? 10) cs n := by
  rw [readTen] at read
  obtain ⟨sign, marked, split⟩ := signTaken (cs.dropWhile isSpace)
  generalize takeSign (cs.dropWhile isSpace) = taken at read marked split
  cases grouped : groups 10 (taken.2.takeWhile inRun) with
  | none => simp [grouped] at read
  | some ds =>
    simp only [grouped] at read
    split at read
    · contradiction
    split at read
    · rename_i behind
      cases read
      have whole : cs = cs.takeWhile isSpace ++
          (sign ++ (taken.2.takeWhile inRun ++ taken.2.dropWhile inRun)) := by
        rw [List.takeWhile_append_dropWhile, ← split, List.takeWhile_append_dropWhile]
      rw [whole]
      exact .number (fun c mem => List.mem_takeWhile_imp mem) marked
        ((groupsIff (by decide)).mp grouped) (List.all_eq_true.mp behind)
    · contradiction

theorem groupedInRun {body : List Char} {ds : List Nat} (grouped : Grouped (digitIn? 10) body ds) :
    ∀ c ∈ body, inRun c = true := by
  induction grouped with
  | last value => simp [inRun, value]
  | next value rest ih => simpa [inRun, value] using ih
  | apart value rest ih => simpa [inRun, value] using ih

theorem spaceBelow {c : Char} (space : isSpace c = true) : c.toNat < 0x21 := by
  simp only [isSpace, Bool.or_eq_true, Bool.and_eq_true, decide_eq_true_eq, beq_iff_eq] at space
  rcases space with rfl | ⟨_, high⟩
  · decide
  · omega

theorem spaceEndsRun {c : Char} (space : isSpace c = true) : inRun c = false := by
  have all : ∀ n < 0x21, isSpace (Char.ofNat n) = true → inRun (Char.ofNat n) = false := by decide
  have this := all c.toNat (spaceBelow space)
  rw [Char.ofNat_toNat] at this
  exact this space

theorem digitStarts {c : Char} {d : Nat} (value : digitIn? 10 c = some d) (rest : List Char) :
    (c :: rest).dropWhile isSpace = c :: rest ∧ takeSign (c :: rest) = (false, c :: rest) := by
  have running : inRun c = true := by simp [inRun, value]
  have solid : isSpace c ≠ true := fun space => by
    rw [spaceEndsRun space] at running
    contradiction
  refine ⟨List.dropWhile_cons_of_neg solid, ?_⟩
  have unmarked (mark : Char) (none : digitIn? 10 mark = none) : c ≠ mark := fun same => by
    rw [same, none] at value
    contradiction
  unfold takeSign
  split
  · rename_i same
    exact absurd (List.cons.inj same).1 (unmarked '-' (by decide))
  · rename_i same
    exact absurd (List.cons.inj same).1 (unmarked '+' (by decide))
  · rfl

theorem writtenRead {cs : List Char} {n : Int} (writes : Writes isSpace (digitIn? 10) cs n)
    (few : digits (digitIn? 10) cs ≤ 4300) : (Radix.of 10).read cs = .ok n := by
  cases writes with
  | @number before sign body after negative ds ahead marked grouped behind =>
    have taken : takeSign ((before ++ (sign ++ (body ++ after))).dropWhile isSpace) =
        (negative, body ++ after) := by
      rw [List.dropWhile_append_of_pos ahead]
      cases marked with
      | none =>
        obtain ⟨c, d, rest, rfl, value⟩ := grouped.startsWithDigit
        obtain ⟨solid, unsigned⟩ := digitStarts value (rest ++ after)
        rw [List.nil_append, List.cons_append, solid, unsigned]
      | plus => rfl
      | minus => rfl
    have ends : after.takeWhile inRun = [] ∧ after.dropWhile inRun = after := by
      cases after with
      | nil => exact ⟨rfl, rfl⟩
      | cons c rest =>
        have ended : inRun c ≠ true := by simp [spaceEndsRun (behind c List.mem_cons_self)]
        exact ⟨List.takeWhile_cons_of_neg ended, List.dropWhile_cons_of_neg ended⟩
    have within_ : ds.length ≤ 4300 := by
      have counted := groupedDigits grouped
      simp only [digits, List.countP_append] at counted few
      omega
    have running := groupedInRun grouped
    rw [readTen, taken]
    simp only [List.takeWhile_append_of_pos running, List.dropWhile_append_of_pos running, ends,
      List.append_nil, (groupsIff (by decide)).mpr grouped, List.all_eq_true.mpr behind]
    rw [if_neg (Nat.not_lt.mpr within_)]
    rfl

section
open Text (digit? isBlank)

variable {cs : List Char} {ds : List Nat} {n : Int}

theorem groupedPlain : Grouped (digitIn? 10) (cs.map plain) ds ↔ Grouped digit? cs ds := by
  constructor
  · generalize same : cs.map plain = ps
    intro grouped
    induction grouped generalizing cs with
    | last value =>
      obtain ⟨c, rfl, rfl⟩ := List.map_eq_singleton_iff.mp same
      exact .last (digitKept c ▸ value)
    | next value rest ih =>
      obtain ⟨c, cs', rfl, rfl, later⟩ := List.map_eq_cons_iff.mp same
      exact .next (digitKept c ▸ value) (ih later)
    | apart value rest ih =>
      obtain ⟨c, cs', rfl, rfl, more⟩ := List.map_eq_cons_iff.mp same
      obtain ⟨mark, cs'', rfl, under, later⟩ := List.map_eq_cons_iff.mp more
      rw [(markKept (by decide)).mp under]
      exact .apart (digitKept c ▸ value) (ih later)
  · intro grouped
    induction grouped with
    | last value => exact .last ((digitKept _).trans value)
    | next value rest ih => exact .next ((digitKept _).trans value) ih
    | apart value rest ih => exact .apart ((digitKept _).trans value) ih

theorem signPlain {negative : Bool} : Sign (cs.map plain) negative ↔ Sign cs negative := by
  constructor
  · generalize same : cs.map plain = ps
    intro sign
    cases sign with
    | none => exact List.map_eq_nil_iff.mp same ▸ .none
    | plus =>
      obtain ⟨c, rfl, kept⟩ := List.map_eq_singleton_iff.mp same
      exact (markKept (by decide)).mp kept ▸ .plus
    | minus =>
      obtain ⟨c, rfl, kept⟩ := List.map_eq_singleton_iff.mp same
      exact (markKept (by decide)).mp kept ▸ .minus
  · intro sign
    cases sign with
    | none => exact .none
    | plus => exact .plus
    | minus => exact .minus

theorem spacesPlain (bare : ∀ c ∈ cs, separates c = false) :
    (∀ p ∈ cs.map plain, isSpace p = true) ↔ ∀ c ∈ cs, isBlank c = true := by
  rw [List.forall_mem_map]
  exact forall₂_congr fun c mem => by rw [spaceKept (bare c mem)]

theorem writesPlain (bare : ∀ c ∈ cs, separates c = false) :
    Writes isSpace (digitIn? 10) (cs.map plain) n ↔ Writes isBlank digit? cs n := by
  constructor
  · generalize same : cs.map plain = ps
    intro writes
    cases writes with
    | number ahead marked grouped behind =>
      obtain ⟨before, rest, rfl, rfl, more⟩ := List.map_eq_append_iff.mp same
      obtain ⟨sign, rest', rfl, rfl, last⟩ := List.map_eq_append_iff.mp more
      obtain ⟨body, after, rfl, rfl, rfl⟩ := List.map_eq_append_iff.mp last
      have first := spacesPlain fun c (mem : c ∈ before) => bare c (by simp [mem])
      have final := spacesPlain fun c (mem : c ∈ after) => bare c (by simp [mem])
      exact .number (first.mp ahead) (signPlain.mp marked) (groupedPlain.mp grouped)
        (final.mp behind)
  · intro writes
    cases writes with
    | @number before sign body after negative ds ahead marked grouped behind =>
      have first := spacesPlain fun c (mem : c ∈ before) => bare c (by simp [mem])
      have final := spacesPlain fun c (mem : c ∈ after) => bare c (by simp [mem])
      simp only [List.map_append]
      exact .number (first.mpr ahead) (signPlain.mpr marked) (groupedPlain.mpr grouped)
        (final.mpr behind)

theorem readsWritten (bare : ∀ c ∈ cs, separates c = false) (few : digits digit? cs ≤ 4300) :
    readIn 10 (cs.map plain) = .ok n ↔ Writes isBlank digit? cs n := by
  have same : digits (digitIn? 10) (cs.map plain) = digits digit? cs := by
    simp only [digits, List.countP_map, Function.comp_def, digitKept]
  constructor
  · intro read
    exact (writesPlain bare).mp (readWrites read)
  · intro writes
    exact writtenRead ((writesPlain bare).mpr writes) (same ▸ few)

end

end FlowDouble.Numeral
