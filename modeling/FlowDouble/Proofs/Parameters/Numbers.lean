import FlowDouble.Proofs.Numbers.Spellings
import FlowDouble.Proofs.Parameters.Readers
import FlowDouble.Proofs.Uses.Maps
/-! Unless it is asked to convert otherwise, a parameter map answers for a text the number that is
written in it. A text that no number is written in is reported. -/
namespace FlowDouble

open FlowDouble.Action Numeral
open Text (digit? isBlank)

namespace Cast

variable {s : String}

theorem wholeReads {n : Int} (read : readIn 10 (s.toList.map plain) = .ok n) :
    whole (.text s) = .ok n := by
  have run : whole (.text s) = readWhole 10 ⟨s.toList.map plain, Text.quoted s.toList⟩ := rfl
  rw [run, readWhole, read]

theorem wholeRefuses (none : ∀ n, readIn 10 (s.toList.map plain) ≠ .ok n) :
    ∃ message, whole (.text s) = .error (.told .wrongValue message) := by
  have run : whole (.text s) = readWhole 10 ⟨s.toList.map plain, Text.quoted s.toList⟩ := rfl
  rw [run, readWhole]
  cases read : readIn 10 (s.toList.map plain) with
  | ok n => exact absurd read (none n)
  | error e =>
    cases e with
    | malformed => exact ⟨_, rfl⟩
    | tooLong digits limit => exact ⟨_, rfl⟩

theorem applied (s : String) : Calls.apply (.kind .int) ⟨[.text s], []⟩ = (do
    return .int (← ofExcept (whole (.text s))) : Action Value) := by
  obtain ⟨n, deep⟩ : ∃ n, callDepth = n + 1 := ⟨199, rfl⟩
  have run : Calls.apply (.kind .int) = Value.applyWithin callDepth (.kind .int) := rfl
  rw [run, deep, Value.appliesAlone rfl]
  rfl

end Cast

theorem World.toldDisplayed (w : World) (message : String) :
    ∃ why, (w.snapshotFault (.told .wrongValue message)).display = .ok why := by
  have arguments : (Fault.told .wrongValue message).arguments =
      if message.isEmpty then [] else [.text message] := rfl
  have run : w.snapshotFault (.told .wrongValue message) = .fault w.errors.length .wrongValue
      (Value.snapshots (w.resolver (w.reach + 1)) (Fault.told .wrongValue message).arguments) := rfl
  rw [run, arguments]
  cases message.isEmpty with
  | true => exact ⟨"", rfl⟩
  | false => exact ⟨message, rfl⟩

namespace ParameterMap

variable {m : ParameterMap} {w : World} {name : Value} {s : String} {rest : List Value}

theorem performGetNumber (m : ParameterMap) (name : Value) :
    (Value.parameters m).perform "get_number" ⟨[name], []⟩ =
      m.getNumber name (.kind .int) .null := by
  obtain ⟨writable, ref⟩ := m
  cases writable
  · rfl
  · rfl

-- The report chains the failure of the reading, which is of a wrong value.
def RefusesNumber (m : ParameterMap) (name : Value) (w : World) : Prop :=
  ∃ r : Report,
    (Value.parameters m).perform "get_number" ⟨[name], []⟩ w = .error (.report r) w ∧
    r.diagnosis = .attributeType name .null ∧ ∃ words, r.cause = some (.told .wrongValue words)

section
variable (plain : w.Plain) (tellable : name.Tellable)
  (some : m.valuesUnder name w = .text s :: rest)
include plain tellable some

theorem answersRead {n : Int} (read : readIn 10 (s.toList.map Numeral.plain) = .ok n) :
    (Value.parameters m).perform "get_number" ⟨[name], []⟩ w = .ok (.int n) w := by
  rw [performGetNumber]
  refine (numberOfFirst plain tellable rfl some _ _).1 _ _ ?_
  rw [Cast.applied, Cast.wholeReads read]
  rfl

theorem refusesUnread (none : ∀ n, readIn 10 (s.toList.map Numeral.plain) ≠ .ok n) :
    m.RefusesNumber name w := by
  obtain ⟨message, refused⟩ := Cast.wholeRefuses none
  have failed : Calls.apply (.kind .int) ⟨[.text s], []⟩ w =
      .error (.told .wrongValue message) w := by
    rw [Cast.applied, refused]
    rfl
  obtain ⟨f, reported, converted⟩ := (numberOfFirst plain tellable rfl some _ .null).2 _ _ failed
  rw [← performGetNumber] at reported
  cases converted with
  | declined _ _ about cause => exact ⟨_, reported, about, message, cause⟩
  | untold _ untold =>
    obtain ⟨why, told⟩ := World.toldDisplayed w message
    rw [told] at untold
    contradiction
  | other keeps => contradiction

end

theorem putsText (known : m.ref < w.parameterMaps.length) (writable : m.writable = true)
    (hashable : name.hashable = true) (s : String) :
    ∃ w', (Value.parameters m).perform "put" ⟨[name, .text s], []⟩ w = .ok (.parameters m) w' ∧
      w'.attachments = w.attachments ∧ m.valuesUnder name w' = [.text s] := by
  have put : m.put name (.text s) w =
      .ok () (w.setParameters m ((w.parameters m).insert name (.text s))) :=
    bindOk (keyAccepted hashable w)
  rw [performPut, if_pos writable]
  refine ⟨_, bindOk put, rfl, ?_⟩
  have entries : (w.setParameters m ((w.parameters m).insert name (.text s))).parameters m =
      (w.parameters m).insert name (.text s) := Heap.readWritten _ known
  rw [valuesUnder, entries, Entries.findInserted]
  rfl

def ReadsBack (m : ParameterMap) (name : Value) (s : String) (n : Int) (w : World) : Prop :=
  ∃ w', (Value.parameters m).perform "put" ⟨[name, .text s], []⟩ w = .ok (.parameters m) w' ∧
    (Value.parameters m).perform "get_number" ⟨[name], []⟩ w' = .ok (.int n) w'

theorem readsBackSpelled (keeping : Keeping m w) (writable : m.writable = true)
    (tellable : name.Tellable) {n : Int} (spells : Spells n s.toList)
    (bare : ∀ c ∈ s.toList, separates c = false) (few : digits digit? s.toList ≤ 4300) :
    m.ReadsBack name s n w := by
  obtain ⟨w', put, same, under⟩ :=
    putsText keeping.settled.known writable tellable.hashable s
  have plain := World.plainKept same keeping.plain
  have read := (readsWritten bare few).mpr (spelledWritten spells)
  exact ⟨w', put, answersRead plain tellable under read⟩

/-- Whatever happened since a parameter map was made, a text under a name is answered as the number
that is written in it, and reported where none is. A map that takes entries answers every number
that is put into it, however it is spelled. -/
theorem numbersAreReadAsWritten {writable : Bool} {source : Value} {w₀ w₁ : World}
    (plain : w₀.Plain) (closed : ∀ c ∈ w₀.contexts, c.parameters.ref < w₀.parameterMaps.length)
    (made : create writable source w₀ = .ok m w₁) (steps : Reaches m w₁ w)
    (tellable : name.Tellable) :
    (∀ s rest, m.valuesUnder name w = .text s :: rest →
      digits digit? s.toList ≤ 4300 → (∀ c ∈ s.toList, separates c = false) →
      (∀ x w', (Value.parameters m).perform "get_number" ⟨[name], []⟩ w = .ok x w' ↔
        w' = w ∧ ∃ n, x = .int n ∧ Numeral.Writes isBlank digit? s.toList n) ∧
      ((∀ n, ¬ Numeral.Writes isBlank digit? s.toList n) → m.RefusesNumber name w)) ∧
    (m.writable = true →
      (∀ (n : Int) (s : String), Spells n s.toList → (∀ c ∈ s.toList, separates c = false) →
        digits digit? s.toList ≤ 4300 → m.ReadsBack name s n w) ∧
      ∀ n : Int, n.natAbs < 10 ^ 4300 → m.ReadsBack name (toString n) n w) := by
  have keeping := (reachedKeeping steps (createdKeeping plain closed made)).1
  refine ⟨fun s rest some few bare => ?_, fun writable => ⟨fun n s spells bare few => ?_, ?_⟩⟩
  · have refuses (none : ∀ n, ¬ Numeral.Writes isBlank digit? s.toList n) :
        m.RefusesNumber name w := by
      refine refusesUnread keeping.plain tellable some fun n read => none n ?_
      exact (readsWritten bare few).mp read
    refine ⟨fun x w' => ⟨fun answered => ?_, ?_⟩, refuses⟩
    · by_cases written : ∃ n, Numeral.Writes isBlank digit? s.toList n
      · obtain ⟨n, writes⟩ := written
        have told := answersRead keeping.plain tellable some ((readsWritten bare few).mpr writes)
        rw [told] at answered
        cases answered
        exact ⟨rfl, n, rfl, writes⟩
      · obtain ⟨r, failed, _⟩ := refuses (not_exists.mp written)
        rw [failed] at answered
        contradiction
    · rintro ⟨rfl, n, rfl, writes⟩
      exact answersRead keeping.plain tellable some ((readsWritten bare few).mpr writes)
  · exact readsBackSpelled keeping writable tellable spells bare few
  · intro n below
    exact readsBackSpelled keeping writable tellable (spellsItself n) (toStringBare n)
      (toStringFew (by decide) below)

theorem paddedNumberAndWordRead :
    ∃ w₀ m w₁, create true (.dictionary 0) w₀ = .ok m w₁ ∧
      (Value.parameters m).perform "get_number" ⟨[.text "x"], []⟩ w₁ = .ok (.int (-7)) w₁ ∧
      m.RefusesNumber (.text "y") w₁ ∧ m.ReadsBack (.text "z") (toString 12) 12 w₁ := by
  let w₀ : World := { dictionaries := [[(.text "x", .text " -0_7 "), (.text "y", .text "7a")]] }
  have plain : w₀.Plain := fun _ _ _ => rfl
  have closed : ∀ c ∈ w₀.contexts, c.parameters.ref < w₀.parameterMaps.length := by
    intro c mem
    contradiction
  let m : ParameterMap := ⟨true, 0⟩
  obtain ⟨w₁, made⟩ : ∃ w₁, create true (.dictionary 0) w₀ = .ok m w₁ := ⟨_, rfl⟩
  obtain ⟨padded, put⟩ := numbersAreReadAsWritten plain closed made .refl (Value.textTellable "x")
  obtain ⟨word, _⟩ := numbersAreReadAsWritten plain closed made .refl (Value.textTellable "y")
  obtain ⟨_, own⟩ := numbersAreReadAsWritten plain closed made .refl (Value.textTellable "z")
  have bare {s : String} (all : s.toList.all fun c => !separates c) :
      ∀ c ∈ s.toList, separates c = false := by
    simpa using all
  have written : Numeral.Writes isBlank digit? " -0_7 ".toList (-7) :=
    (readsWritten (bare (by decide)) (by decide)).mp rfl
  have unwritten (n : Int) : ¬ Numeral.Writes isBlank digit? "7a".toList n := fun writes => by
    have read := (readsWritten (bare (by decide)) (by decide)).mpr writes
    contradiction
  have small {k : Nat} (more : 2 ≤ k) : 12 < 10 ^ k :=
    Nat.lt_of_lt_of_le (by decide : 12 < 10 ^ 2) (Nat.pow_le_pow_right (by decide) more)
  cases made
  refine ⟨w₀, m, _, rfl, ?_, ?_, (own rfl).2 12 (small (by decide))⟩
  · exact ((padded " -0_7 " [] rfl (by decide) (bare (by decide))).1 _ _).mpr ⟨rfl, -7, rfl, written⟩
  · exact (word "7a" [] rfl (by decide) (bare (by decide))).2 unwritten

end ParameterMap

end FlowDouble
