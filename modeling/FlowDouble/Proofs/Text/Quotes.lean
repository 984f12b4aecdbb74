import FlowDouble.Number.Numeral
import FlowDouble.Text.Quoted
import Mathlib.Algebra.Group.Nat.Defs
import Mathlib.Data.List.Basic
/-! What stands between quotes, read as a text literal: which text it denotes, if it is one at all.
Main statement: a quoted text is a literal of one line, and denotes what was quoted. -/
namespace FlowDouble.Text

open Numeral (digitIn?)

def letterEscapes : List (Char × Char) :=
  [('\\', '\\'), (apostrophe, apostrophe), (doubleQuote, doubleQuote), ('n', '\n'), ('r', '\r'),
   ('t', '\t'), ('a', '\x07'), ('b', '\x08'), ('f', '\x0c'), ('v', '\x0b')]

def codeEscapes : List (Char × Nat) := [('x', 2), ('u', 4), ('U', 8)]

def numberIn (base : Nat) (ds : List Char) : Option Nat :=
  ds.foldlM (fun n c => (digitIn? base c).map (base * n + ·)) 0

def characterAt (n : Nat) : Option Char := if n.isValidChar then some (Char.ofNat n) else none

def plainInLiteral (c : Char) : Bool := c != '\n' && c != '\r' && c != '\x00'

def escaped? (cs : List Char) : Option (List Char × Nat) :=
  match cs with
  | [] => none
  | c :: rest =>
    let octal := (cs.take 3).takeWhile fun d => (digitIn? 8 d).isSome
    match letterEscapes.lookup c, codeEscapes.lookup c with
    | some x, _ => some ([x], 1)
    | none, some width =>
      if width ≤ rest.length then
        ((numberIn 16 (rest.take width)).bind characterAt).map fun x => ([x], width + 1)
      else none
    | none, none =>
      if !octal.isEmpty then
        ((numberIn 8 octal).bind characterAt).map fun x => ([x], octal.length)
      else if c = '\n' then some ([], 1)
      else if c = 'N' || !plainInLiteral c then none
      else some (['\\', c], 1)

def readBody (q : Char) : (taken : Nat) → List Char → Option (List Char)
  | _, [] => none
  | n + 1, _ :: cs => readBody q n cs
  | 0, c :: cs =>
    if c = q then if cs.isEmpty then some [] else none
    else if c = '\\' then
      match escaped? cs with
      | some (xs, taken) => (readBody q taken cs).map (xs ++ ·)
      | none => none
    else if plainInLiteral c then (readBody q 0 cs).map (c :: ·)
    else none

def readLiteral : List Char → Option (List Char)
  | [] => none
  | q :: cs => if q = apostrophe ∨ q = doubleQuote then readBody q 0 cs else none

theorem bodyAfter (q : Char) (taken rest : List Char) :
    readBody q taken.length (taken ++ rest) = readBody q 0 rest := by
  induction taken with
  | nil => rfl
  | cons c taken ih => exact ih

theorem bodyEscaped {q : Char} (plain : '\\' ≠ q) (taken xs rest : List Char)
    (escape : escaped? (taken ++ rest) = some (xs, taken.length)) :
    readBody q 0 ('\\' :: (taken ++ rest)) = (readBody q 0 rest).map (xs ++ ·) := by
  rw [readBody, if_neg plain, if_pos rfl, escape]
  simp only [bodyAfter]

theorem digitsOfSixteen : ∀ n < 16, digitIn? 16 (hexDigit n) = some n := by decide

theorem hexLength (w n : Nat) : (hex w n).length = w := by
  induction w generalizing n with
  | zero => rfl
  | succ w ih => rw [hex, List.length_append, ih, List.length_singleton]

theorem hexRead {w n : Nat} (fits : n < 16 ^ w) : numberIn 16 (hex w n) = some n := by
  induction w generalizing n with
  | zero =>
    have none : n = 0 := by simpa using fits
    rw [none]
    rfl
  | succ w ih =>
    have upper : n / 16 < 16 ^ w := Nat.div_lt_of_lt_mul (by rwa [Nat.pow_succ'] at fits)
    have last := digitsOfSixteen (n % 16) (Nat.mod_lt n (by decide))
    unfold numberIn at ih ⊢
    rw [hex, List.foldlM_append, ih upper]
    simp only [Option.bind_eq_bind, Option.bind_some, List.foldlM_cons, List.foldlM_nil, last,
      Option.map_some, Nat.div_add_mod]
    rfl

theorem characterItself (c : Char) : characterAt c.toNat = some c := by
  have valid : c.toNat.isValidChar := c.valid
  unfold characterAt
  rw [if_pos valid, Char.ofNat_toNat]

theorem codeEscapesApart : ∀ e ∈ codeEscapes,
    letterEscapes.lookup e.1 = none ∧ codeEscapes.lookup e.1 = some e.2 := by decide

theorem codeRead {letter c : Char} {w : Nat} (escape : (letter, w) ∈ codeEscapes)
    (fits : c.toNat < 16 ^ w) (rest : List Char) :
    escaped? (letter :: hex w c.toNat ++ rest) = some ([c], w + 1) := by
  obtain ⟨noLetter, code⟩ := codeEscapesApart _ escape
  have room : w ≤ (hex w c.toNat ++ rest).length := by simp [hexLength]
  have digits : (hex w c.toNat ++ rest).take w = hex w c.toNat :=
    List.take_left' (hexLength w _)
  unfold escaped?
  simp only [List.cons_append, noLetter, code]
  rw [if_pos room, digits, hexRead fits]
  simp [characterItself]

theorem belowAllCodes (c : Char) : c.toNat < 16 ^ 8 := by
  have valid : c.toNat < 0xd800 ∨ 0xdfff < c.toNat ∧ c.toNat < 0x110000 := c.valid
  omega

theorem printableInLiteral {c : Char} (printable : isPrintable c = true) :
    plainInLiteral c = true := by
  unfold isPrintable at printable
  simp only [plainInLiteral, Bool.and_eq_true, bne_iff_ne]
  refine ⟨⟨?_, ?_⟩, ?_⟩ <;> rintro rfl <;> exact absurd printable (by decide)

inductive Encoded (q c : Char) : List Char → Prop where
  | letter {x : Char} (known : letterEscapes.lookup x = some c) : Encoded q c ['\\', x]
  | code {x : Char} {w : Nat} (known : (x, w) ∈ codeEscapes) (fits : c.toNat < 16 ^ w) :
      Encoded q c ('\\' :: x :: hex w c.toNat)
  | itself (other : c ≠ q) (noEscape : c ≠ '\\') (plain : plainInLiteral c = true) :
      Encoded q c [c]

theorem escapeEncoded (q c : Char) : Encoded q c (escape c.toNat) := by
  unfold escape
  by_cases two : c.toNat < 0x100
  · rw [if_pos two]
    exact .code (by decide) two
  rw [if_neg two]
  by_cases four : c.toNat < 0x10000
  · rw [if_pos four]
    exact .code (by decide) four
  · rw [if_neg four]
    exact .code (by decide) (belowAllCodes c)

section
variable {q : Char} (quote : q = apostrophe ∨ q = doubleQuote)
include quote

theorem charEncoded (c : Char) : Encoded q c (encodeChar q c) := by
  unfold encodeChar
  by_cases guarded : c = q ∨ c = '\\'
  · rw [if_pos guarded]
    refine .letter ?_
    rcases guarded with rfl | rfl
    · rcases quote with rfl | rfl <;> rfl
    · rfl
  rw [if_neg guarded]
  by_cases line : c = '\n'
  · rw [if_pos line]
    exact .letter (line ▸ rfl)
  rw [if_neg line]
  by_cases back : c = '\r'
  · rw [if_pos back]
    exact .letter (back ▸ rfl)
  rw [if_neg back]
  by_cases tab : c = '\t'
  · rw [if_pos tab]
    exact .letter (tab ▸ rfl)
  rw [if_neg tab]
  by_cases printable : isPrintable c = true
  · obtain ⟨other, noEscape⟩ := not_or.mp guarded
    rw [if_pos printable]
    exact .itself other noEscape (printableInLiteral printable)
  · rw [if_neg printable]
    exact escapeEncoded q c

theorem encodedRead {c : Char} {cs : List Char} (encoded : Encoded q c cs) (rest : List Char) :
    readBody q 0 (cs ++ rest) = (readBody q 0 rest).map (c :: ·) := by
  have plain : '\\' ≠ q := by rcases quote with rfl | rfl <;> decide
  cases encoded with
  | @letter x known =>
    refine bodyEscaped plain [x] [c] rest ?_
    simp [escaped?, known]
  | @code x w known fits =>
    refine bodyEscaped plain (x :: hex w c.toNat) [c] rest ?_
    rw [codeRead known fits, List.length_cons, hexLength]
  | itself other noEscape plain =>
    rw [List.singleton_append, readBody, if_neg other, if_neg noEscape, if_pos plain]

theorem bodyRead (cs : List Char) : readBody q 0 (cs.flatMap (encodeChar q) ++ [q]) = some cs := by
  induction cs with
  | nil => simp [readBody]
  | cons c cs ih =>
    rw [List.flatMap_cons, List.append_assoc, encodedRead quote (charEncoded quote c), ih,
      Option.map_some]

end

theorem quoteForEither (cs : List Char) : quoteFor cs = apostrophe ∨ quoteFor cs = doubleQuote := by
  unfold quoteFor
  split
  · exact .inr rfl
  · exact .inl rfl

theorem quotedRead (cs : List Char) : readLiteral (quoted cs) = some cs := by
  have quote := quoteForEither cs
  have body := bodyRead quote cs
  simp only [quoted, readLiteral, if_pos quote, body]

example : readLiteral "'\\x41\\102\\'\\q'".toList = some ['A', 'B', apostrophe, '\\', 'q'] := by
  decide

theorem quoteRead (s : String) : readLiteral (quote s).toList = some s.toList := by
  rw [quote, String.toList_ofList, quotedRead]

theorem quoteInjective {s t : String} (same : quote s = quote t) : s = t := by
  have read := quoteRead s
  rw [same, quoteRead] at read
  exact String.toList_inj.mp (Option.some.inj read).symm

theorem hexDigitsInLine : ∀ n < 16, hexDigit n ≠ '\n' := by decide

theorem hexInLine (w n : Nat) : '\n' ∉ hex w n := by
  induction w generalizing n with
  | zero => exact List.not_mem_nil
  | succ w ih =>
    have last := hexDigitsInLine (n % 16) (Nat.mod_lt n (by decide))
    rw [hex, List.mem_append, List.mem_singleton]
    exact not_or.mpr ⟨ih _, Ne.symm last⟩

theorem encodedInLine {q c : Char} {cs : List Char} (encoded : Encoded q c cs) : '\n' ∉ cs := by
  have apart {x : Char} {cs : List Char} (other : x ≠ '\n') (rest : '\n' ∉ cs) :
      '\n' ∉ '\\' :: x :: cs := by
    simp [rest, Ne.symm other]
  cases encoded with
  | @letter x known =>
    refine apart ?_ List.not_mem_nil
    rintro rfl
    contradiction
  | @code x w known =>
    refine apart ?_ (hexInLine _ _)
    rintro rfl
    have none : codeEscapes.lookup '\n' = some w := (codeEscapesApart _ known).2
    contradiction
  | itself _ _ plain =>
    rw [List.mem_singleton]
    rintro rfl
    contradiction

theorem quoteInLine (s : String) : '\n' ∉ (quote s).toList := by
  have either := quoteForEither s.toList
  have noQuote : '\n' ≠ quoteFor s.toList := by
    rcases either with same | same <;> rw [same] <;> decide
  have body : ∀ c ∈ s.toList, '\n' ∉ encodeChar (quoteFor s.toList) c :=
    fun c _ => encodedInLine (charEncoded either c)
  simpa [quote, quoted, noQuote] using body

end FlowDouble.Text
