import FlowDouble.Proofs.Parameters.Readers
import FlowDouble.Proofs.Text.Words
/-! A text is read as a boolean by the word in it, and there are four words for either. Any other
text is reported, and the default is for parameters without a value alone. -/
namespace FlowDouble.ParameterMap

open FlowDouble.Action
open Text (Restyled Strange)

def booleanWords : Bool → List String
  | true => ["true", "on", "yes", "1"]
  | false => ["false", "off", "no", "0"]

def Says (b : Bool) (s : String) : Prop := ∃ word ∈ booleanWords b, Restyled word.toList s.toList

theorem wordsLettered : ∀ b, ∀ word ∈ booleanWords b,
    word.toList ≠ [] ∧ ∀ c ∈ word.toList, c ∈ Text.letters := by
  have all : ∀ b, ∀ word ∈ booleanWords b,
      word.toList ≠ [] ∧ word.toList.all Text.letters.contains := by decide
  simpa only [List.all_eq_true, List.contains_iff_mem] using all

theorem wordsApart : ∀ word ∈ booleanWords false, word ∉ booleanWords true := by decide

variable {s s' : String} {b : Bool}

theorem saysWord : Says b s ↔
    String.ofList (Text.lower (Text.trim s.toList)) ∈ booleanWords b := by
  have each {word : String} (known : word ∈ booleanWords b) :
      Restyled word.toList s.toList ↔ String.ofList (Text.lower (Text.trim s.toList)) = word := by
    have lettered := (wordsLettered b word known).2
    rw [Text.restyledWord lettered, ← Text.lowerVariant lettered, ← String.toList_inj,
      String.toList_ofList]
  constructor
  · rintro ⟨word, known, restyled⟩
    exact (each known).mp restyled ▸ known
  · intro known
    exact ⟨_, known, (each known).mpr rfl⟩

theorem readsSaid : readBoolean s = some b ↔ Says b s := by
  have run : readBoolean s =
      if (booleanWords true).contains (String.ofList (Text.lower (Text.trim s.toList))) then
        some true
      else if (booleanWords false).contains (String.ofList (Text.lower (Text.trim s.toList))) then
        some false
      else none := rfl
  rw [run, saysWord]
  generalize String.ofList (Text.lower (Text.trim s.toList)) = word
  by_cases holds : word ∈ booleanWords true
  · cases b with
    | true => simp [holds]
    | false =>
      have other : word ∉ booleanWords false := fun mem => wordsApart word mem holds
      simp [holds, other]
  · cases b with
    | true => simp [holds]
    | false => simp [holds]

theorem restyledSays (restyled : Restyled s.toList s'.toList) : Says b s' ↔ Says b s := by
  have each {word : String} (known : word ∈ booleanWords b) :
      Restyled word.toList s'.toList ↔ Restyled word.toList s.toList := by
    have lettered := (wordsLettered b word known).2
    rw [Text.restyledWord lettered, Text.restyledWord lettered, Text.restyledTrims restyled]
  exact exists_congr fun word => and_congr_right each

theorem strangeUnsaid (strange : Strange s.toList) : ¬ Says b s := by
  rintro ⟨word, known, restyled⟩
  obtain ⟨some, lettered⟩ := wordsLettered b word known
  exact Text.strangeNoWord some lettered strange restyled

section
variable [Calls] {m : ParameterMap} {w : World} {name default v : Value} {rest : List Value}

theorem performGetBoolean (m : ParameterMap) (name default : Value) :
    (Value.parameters m).perform "get_boolean" ⟨[name, default], []⟩ =
      m.getBoolean name default := by
  obtain ⟨writable, ref⟩ := m
  cases writable
  · rfl
  · rfl

def Decides (m : ParameterMap) (name default : Value) (w : World) : Option Bool → Prop
  | some b => (Value.parameters m).perform "get_boolean" ⟨[name, default], []⟩ w = .ok (.bool b) w
  | none => Reports (.attributeType name (.kind .bool))
      ((Value.parameters m).perform "get_boolean" ⟨[name, default], []⟩) w

theorem decidesOne {o o' : Option Bool} (one : m.Decides name default w o)
    (other : m.Decides name default w o') : o = o' := by
  cases o with
  | none =>
    obtain ⟨r, failed, _⟩ := one
    cases o' with
    | none => rfl
    | some b =>
      have told : _ = _ := other
      rw [failed] at told
      cases told
  | some b =>
    have told : _ = _ := one
    cases o' with
    | none =>
      obtain ⟨r, failed, _⟩ := other
      rw [failed] at told
      cases told
    | some b' =>
      have told' : _ = _ := other
      rw [told] at told'
      cases told'
      rfl

theorem decidesRead (plain : w.Plain) (tellable : name.Tellable)
    (some : m.valuesUnder name w = .text s :: rest) (default : Value) (o : Option Bool) :
    m.Decides name default w o ↔ readBoolean s = o := by
  have present : (Value.text s).isNull = false := rfl
  have first := readsFirst plain tellable present some
  have decided {o : Option Bool} (read : readBoolean s = o) : m.Decides name default w o := by
    cases o with
    | none =>
      have reported := (first.boolean s rfl default).2 read
      rwa [← performGetBoolean] at reported
    | some b =>
      have answered := (first.boolean s rfl default).1 b read
      rwa [← performGetBoolean] at answered
  constructor
  · intro other
    obtain ⟨o', read⟩ : ∃ o', readBoolean s = o' := ⟨_, rfl⟩
    rw [read]
    exact decidesOne (decided read) other
  · exact decided

/-- Whatever happened since a parameter map was made, a text under a name is the boolean whose word
it has, in any case and between any white space, and is reported where it has none. -/
theorem booleansAreReadAsWords {writable : Bool} {source : Value} {w₀ w₁ : World}
    (plain : w₀.Plain) (closed : ∀ c ∈ w₀.contexts, c.parameters.ref < w₀.parameterMaps.length)
    (made : create writable source w₀ = .ok m w₁) (steps : Reaches m w₁ w)
    (tellable : name.Tellable) :
    (∀ s rest default, m.valuesUnder name w = .text s :: rest →
      (∀ b, (Value.parameters m).perform "get_boolean" ⟨[name, default], []⟩ w = .ok (.bool b) w ↔
        Says b s) ∧
      (∀ x w', (Value.parameters m).perform "get_boolean" ⟨[name, default], []⟩ w = .ok x w' →
        w' = w ∧ ∃ b, x = .bool b) ∧
      (((∀ b, ¬ Says b s) ∨ Strange s.toList) → Reports (.attributeType name (.kind .bool))
        ((Value.parameters m).perform "get_boolean" ⟨[name, default], []⟩) w) ∧
      ∀ w' s' rest', Reaches m w₁ w' → m.valuesUnder name w' = .text s' :: rest' →
        Restyled s.toList s'.toList →
        ∀ o, m.Decides name default w' o ↔ m.Decides name default w o) ∧
    ∀ s, ¬ (Says true s ∧ Says false s) := by
  have start := createdKeeping plain closed made
  have keeping := (reachedKeeping steps start).1
  refine ⟨fun s rest default some => ?_, fun s both => ?_⟩
  · have decides := decidesRead keeping.plain tellable some default
    have unsaid (nothing : ∀ b, ¬ Says b s) : readBoolean s = none :=
      Option.eq_none_iff_forall_ne_some.mpr fun b read => nothing b (readsSaid.mp read)
    refine ⟨fun b => (decides (.some b)).trans readsSaid, fun x w' answered => ?_,
      fun nothing => ?_, fun w' s' rest' later some' restyled o => ?_⟩
    · cases read : readBoolean s with
      | none =>
        obtain ⟨r, failed, _⟩ := (decides none).mpr read
        rw [failed] at answered
        cases answered
      | some b =>
        have told : _ = _ := (decides (.some b)).mpr read
        rw [told] at answered
        cases answered
        exact ⟨rfl, b, rfl⟩
    · refine (decides .none).mpr (unsaid ?_)
      rcases nothing with unsaid | strange
      · exact unsaid
      · exact fun b => strangeUnsaid strange
    · have later' := (reachedKeeping later start).1
      have same : readBoolean s' = readBoolean s :=
        Option.ext fun b => readsSaid.trans ((restyledSays restyled).trans readsSaid.symm)
      rw [decides, decidesRead later'.plain tellable some', same]
  · have one := (readsSaid.mpr both.1).symm.trans (readsSaid.mpr both.2)
    exact absurd (Option.some.inj one) (by decide)

end

theorem paddedWordRead :
    ∃ w₀ m w₁, create true (.dictionary 0) w₀ = .ok m w₁ ∧
      (Value.parameters m).perform "get_boolean" ⟨[.text "x", .bool false], []⟩ w₁ =
        .ok (.bool true) w₁ ∧
      Reports (.attributeType (.text "y") (.kind .bool))
        ((Value.parameters m).perform "get_boolean" ⟨[.text "y", .bool true], []⟩) w₁ := by
  let w₀ : World :=
    { dictionaries := [[(.text "x", .text "\tyEs "), (.text "y", .text "y\u00e9s")]] }
  have plain : w₀.Plain := fun _ _ _ => rfl
  have closed : ∀ c ∈ w₀.contexts, c.parameters.ref < w₀.parameterMaps.length := by
    intro c mem
    contradiction
  let m : ParameterMap := ⟨true, 0⟩
  obtain ⟨w₁, made⟩ : ∃ w₁, create true (.dictionary 0) w₀ = .ok m w₁ := ⟨_, rfl⟩
  obtain ⟨word, _⟩ := booleansAreReadAsWords plain closed made .refl (Value.textTellable "x")
  obtain ⟨strange, _⟩ := booleansAreReadAsWords plain closed made .refl (Value.textTellable "y")
  have said : Says true "\tyEs " := readsSaid.mp (by decide)
  have foreign : Strange "y\u00e9s".toList := .inr ⟨'\u00e9', by decide, by decide⟩
  cases made
  refine ⟨w₀, m, _, rfl, ?_, ?_⟩
  · exact ((word _ [] (.bool false) rfl).1 true).mpr said
  · exact (strange _ [] (.bool true) rfl).2.2.1 (.inr foreign)

end FlowDouble.ParameterMap
