import FlowDouble.Invocation
import FlowDouble.Proofs.Context.Guard
import FlowDouble.Proofs.Parameters.History
import FlowDouble.Proofs.Uses.Through
/-! What the readers of a parameter map answer is decided by the first of the values under a name.
The one that converts calls its converter once, for that value. -/
namespace FlowDouble

open FlowDouble.Action

structure Value.Tellable [Calls] (name : Value) : Prop where
  hashable : name.hashable = true
  shown : ∀ w, ∃ s, Action.shown name w = .ok s w
  spelled : ∀ w, ∃ s, Action.spelled name w = .ok s w
  truthy : ∀ w : World, ∃ b, w.truthy name = .ok b

theorem Value.textTellable [Calls] (s : String) : (Value.text s).Tellable where
  hashable := rfl
  shown w := ⟨s, shownText s w⟩
  spelled _ := ⟨_, rfl⟩
  truthy _ := ⟨_, rfl⟩

namespace Report

variable {w : World} {key : Value}

theorem attributeNotFoundMade {b : Bool} (told : w.truthy key = .ok b) (message : Value)
    (metadata : Entries) :
    ∃ r, attributeNotFound w message key metadata = .ok r ∧
      r.diagnosis = .attributeNotFound key := by
  unfold attributeNotFound noteOf
  rw [told]
  cases b
  · exact ⟨_, rfl, rfl⟩
  · exact ⟨_, rfl, rfl⟩

theorem attributeTypeMade (w : World) (message key : Value) (expected : Kind) (value : Value)
    (metadata : Entries) :
    ∃ r, attributeType w message key (.kind expected) value metadata = .ok r ∧
      r.diagnosis = .attributeType key (.kind expected) := by
  have named : ∃ name, kindName w (.kind expected) = .ok name := by
    unfold kindName
    cases w.attachment? (.kind expected) nameMember with
    | none => exact ⟨_, rfl⟩
    | some name => exact ⟨name, rfl⟩
  obtain ⟨name, named⟩ := named
  have noted : expectedNote w (.kind expected) = .ok [(.text "expected_type", name)] := by
    have run : expectedNote w (.kind expected) =
        (do return [(.text "expected_type", ← kindName w (.kind expected))]) := rfl
    rw [run, named]
    rfl
  unfold attributeType
  rw [noted]
  exact ⟨_, rfl, rfl⟩

end Report

namespace Action

variable {α β : Type} {w : World} {about : Diagnosis}

def Reports (about : Diagnosis) (a : Action α) (w : World) : Prop :=
  ∃ r : Report, a w = .error (.report r) w ∧ r.diagnosis = about

theorem reportsAfter {a : Action α} {next : α → Action β} {v : α} (done : a w = .ok v w)
    (reports : Reports about (next v) w) : Reports about (a >>= next) w := by
  obtain ⟨r, failed, same⟩ := reports
  exact ⟨r, (bindOk done).trans failed, same⟩

theorem reportsThrough {a : Action α} {next : α → Action β} (reports : Reports about a w) :
    Reports about (a >>= next) w := by
  obtain ⟨r, failed, same⟩ := reports
  exact ⟨r, bindError failed, same⟩

theorem missingReported [Calls] {key : Value} (tellable : key.Tellable) (message : String)
    (metadata : Entries) (w : World) :
    Reports (.attributeNotFound key) (refuseMissing message key metadata : Action α) w := by
  obtain ⟨b, told⟩ := tellable.truthy w
  obtain ⟨r, made, same⟩ := Report.attributeNotFoundMade told (.text message) metadata
  refine ⟨r, ?_, same⟩
  have run : refuseMissing message key metadata w =
      (refuseWith (Report.attributeNotFound w (.text message) key metadata) : Action α) w := rfl
  rw [run, made]
  rfl

theorem typeReported (message : String) (key : Value) (expected : Kind) (value : Value)
    (w : World) :
    Reports (.attributeType key (.kind expected))
      (refuseType message key (.kind expected) value : Action α) w := by
  obtain ⟨r, made, same⟩ := Report.attributeTypeMade w (.text message) key expected value []
  refine ⟨r, ?_, same⟩
  have run : refuseType message key (.kind expected) value w =
      (refuseWith (Report.attributeType w (.text message) key (.kind expected) value []) :
        Action α) w := rfl
  rw [run, made]
  rfl

end Action

namespace ParameterMap

section
variable {m : ParameterMap} {w : World} {name v : Value} {rest : List Value}

theorem firstOfRow (stored : Option Value) (default : Value) :
    first stored default = (row stored).headD default := by
  cases stored with
  | none => rfl
  | some v =>
    cases v with
    | tuple tag vs => cases vs <;> rfl
    | _ => rfl

def valuesUnder (m : ParameterMap) (name : Value) (w : World) : List Value :=
  row ((w.parameters m).find? name)

theorem valuesHeld (held : Held (w.parameters m)) (mem : v ∈ m.valuesUnder name w) :
    v.isText = true ∨ v.isUpload = true := by
  unfold valuesUnder at mem
  cases found : (w.parameters m).find? name with
  | none => simp [found, row] at mem
  | some stored =>
    obtain ⟨e, there, _, same⟩ := Entries.findSome found
    have holdable : Holdable stored := same ▸ held.values e there
    rw [found] at mem
    cases holdable with
    | text s =>
      cases List.mem_singleton.mp mem
      exact .inl rfl
    | upload =>
      cases List.mem_singleton.mp mem
      exact .inr rfl
    | texts tag all => exact .inl (isTextIff.mpr (all v mem))
    | uploads tag all => exact .inr (isUploadIff.mpr (all v mem))

theorem heldNotNull (held : Held (w.parameters m)) (mem : v ∈ m.valuesUnder name w) :
    v.isNull = false := by
  rcases valuesHeld held mem with text | upload
  · obtain ⟨s, rfl⟩ := isTextIff.mp text
    rfl
  · obtain ⟨t, n, c, o, k, rfl⟩ := isUploadIff.mp upload
    rfl

theorem getHead (hashable : name.hashable = true) (default : Value) :
    m.get name default w = .ok ((m.valuesUnder name w).headD default) w := by
  rw [getTells hashable, firstOfRow]
  rfl

variable [Calls]

theorem askForHead (plain : w.Plain) (hashable : name.hashable = true) :
    m.askFor name w = .ok ((m.valuesUnder name w).headD .null) w := by
  unfold askFor
  rw [Value.answerUnhidden (plain _ _ (by decide))]
  exact getHead hashable .null

theorem askForNone (plain : w.Plain) (hashable : name.hashable = true)
    (none : m.valuesUnder name w = []) : m.askFor name w = .ok .null w := by
  rw [askForHead plain hashable, none]
  rfl

theorem askForSome (plain : w.Plain) (hashable : name.hashable = true)
    (some : m.valuesUnder name w = v :: rest) : m.askFor name w = .ok v w := by
  rw [askForHead plain hashable, some]
  rfl

structure ReadsNone (m : ParameterMap) (name : Value) (w : World) : Prop where
  get : ∀ default, m.get name default w = .ok default w
  number : ∀ converter default, m.getNumber name converter default w = .ok default w
  boolean : ∀ default, m.getBoolean name default w = .ok default w
  upload : m.getUpload name w = .ok .null w
  required : Reports (.attributeNotFound name) (m.getRequired name) w
  requiredUpload : Reports (.attributeNotFound name) (m.getRequiredUpload name) w

theorem readsNone (plain : w.Plain) (tellable : name.Tellable)
    (none : m.valuesUnder name w = []) : m.ReadsNone name w where
  get default := by
    rw [getHead tellable.hashable, none]
    rfl
  number converter default := bindOk (askForNone plain tellable.hashable none)
  boolean default := bindOk (askForNone plain tellable.hashable none)
  upload := bindOk (askForNone plain tellable.hashable none)
  required := by
    obtain ⟨s, shown⟩ := tellable.shown w
    obtain ⟨t, spelled⟩ := tellable.spelled w
    obtain ⟨b, told⟩ := tellable.truthy w
    refine reportsAfter (askForNone plain tellable.hashable none) (reportsAfter shown ?_)
    rw [Reports, worldBind]
    obtain ⟨r, made, same⟩ := Report.attributeNotFoundMade told
      (.text ("Required request parameter '" ++ s ++ "' is not present")) []
    have kept : (ofExcept (.ok r) : Action Report) w = .ok r w := rfl
    rw [made, bindOk kept, bindOk spelled]
    exact ⟨_, rfl, same⟩
  requiredUpload := by
    have nothing : m.getUpload name w = .ok .null w :=
      bindOk (askForNone plain tellable.hashable none)
    obtain ⟨s, shown⟩ := tellable.shown w
    have asked : (Value.parameters m).answer "get_multipart_file" ⟨[name], []⟩
        (m.getUpload name) w = .ok .null w :=
      (Value.answerUnhidden (plain _ _ (by decide)) _ _).trans nothing
    refine reportsAfter asked ?_
    refine reportsAfter shown ?_
    exact missingReported tellable _ _ w

/-- What becomes of a failure of a converter. One that declines is reported under the name, with
the failure as its cause, unless telling the failure fails in turn. -/
inductive Converted (name : Value) (w : World) (f : Fault) : Fault → Prop where
  | declined {r : Report} (declines : f.declines = true)
      (told : ∃ why, (w.snapshotFault f).display = .ok why)
      (about : r.diagnosis = .attributeType name .null) (cause : r.cause = some f) :
      Converted name w f (.report r)
  | untold {g : Fault} (declines : f.declines = true)
      (untold : (w.snapshotFault f).display = .error g) : Converted name w f g
  | other (keeps : f.declines = false) : Converted name w f f

theorem declinedTells (tellable : name.Tellable) {f : Fault} (declines : f.declines = true) :
    ∃ g, declined name v f w = .error g w ∧ Converted name w f g := by
  obtain ⟨s, shown⟩ := tellable.shown w
  unfold declined
  rw [bindOk shown, worldBind]
  cases told : (w.snapshotFault f).display with
  | error g => exact ⟨g, rfl, .untold declines told⟩
  | ok why => exact ⟨_, rfl, .declined declines ⟨why, told⟩ rfl rfl⟩

structure ReadsFirst (m : ParameterMap) (name v : Value) (w : World) : Prop where
  get : ∀ default, m.get name default w = .ok v w
  required : m.getRequired name w = .ok v w
  upload : v.isUpload = true →
    m.getUpload name w = .ok v w ∧ m.getRequiredUpload name w = .ok v w
  noUpload : v.isUpload = false →
    Reports (.attributeType name (.kind .upload)) (m.getUpload name) w ∧
      Reports (.attributeType name (.kind .upload)) (m.getRequiredUpload name) w
  noBoolean : v.isUpload = true → ∀ default,
    Reports (.attributeType name (.kind .bool)) (m.getBoolean name default) w
  boolean : ∀ s, v = .text s → ∀ default,
    (∀ b, readBoolean s = some b → m.getBoolean name default w = .ok (.bool b) w) ∧
      (readBoolean s = none →
        Reports (.attributeType name (.kind .bool)) (m.getBoolean name default) w)
  number : ∀ converter default,
    (∀ x w', Calls.apply converter ⟨[v], []⟩ w = .ok x w' →
      m.getNumber name converter default w = .ok x w') ∧
    ∀ f w', Calls.apply converter ⟨[v], []⟩ w = .error f w' →
      ∃ g, m.getNumber name converter default w = .error g w' ∧ Converted name w' f g

section
variable (plain : w.Plain) (tellable : name.Tellable) (present : v.isNull = false)
  (some : m.valuesUnder name w = v :: rest)
include plain tellable present some

theorem afterFirst {α : Type} (given : Action α) (next : Value → Action α) :
    (do
      let value ← m.askFor name
      if value.isNull then given else next value : Action α) w = next v w := by
  rw [bindOk (askForSome plain tellable.hashable some), present]
  rfl

theorem numberOfFirst (converter default : Value) :
    (∀ x w', Calls.apply converter ⟨[v], []⟩ w = .ok x w' →
      m.getNumber name converter default w = .ok x w') ∧
    ∀ f w', Calls.apply converter ⟨[v], []⟩ w = .error f w' →
      ∃ g, m.getNumber name converter default w = .error g w' ∧ Converted name w' f g := by
  have run : m.getNumber name converter default w = _ :=
    (afterFirst plain tellable present some _ _).trans (tryRuns _ _ w)
  refine ⟨fun x w' converted => ?_, fun f w' failed => ?_⟩
  · rw [run, converted]
  · rw [run, failed]
    dsimp only
    cases declines : f.declines with
    | false => exact ⟨f, rfl, .other declines⟩
    | true => exact declinedTells tellable declines

theorem uploadOfFirst :
    (v.isUpload = true → m.getUpload name w = .ok v w) ∧
      (v.isUpload = false →
        Reports (.attributeType name (.kind .upload)) (m.getUpload name) w) := by
  obtain ⟨s, shown⟩ := tellable.shown w
  have asked := askForSome plain tellable.hashable some
  refine ⟨fun upload => ?_, fun other => ?_⟩
  · unfold getUpload
    rw [bindOk asked, present, upload]
    rfl
  · refine reportsAfter asked ?_
    rw [present, other]
    exact reportsAfter shown (typeReported _ _ _ _ w)

theorem requiredUploadOfFirst :
    (v.isUpload = true → m.getRequiredUpload name w = .ok v w) ∧
      (v.isUpload = false →
        Reports (.attributeType name (.kind .upload)) (m.getRequiredUpload name) w) := by
  obtain ⟨accepts, refuses⟩ := uploadOfFirst plain tellable present some
  have own : (Value.parameters m).answer "get_multipart_file" ⟨[name], []⟩ (m.getUpload name) w =
      m.getUpload name w := Value.answerUnhidden (plain _ _ (by decide)) _ _
  refine ⟨fun upload => ?_, fun other => reportsThrough ?_⟩
  · unfold getRequiredUpload
    rw [bindOk (own.trans (accepts upload)), present]
    rfl
  · unfold Reports
    rw [own]
    exact refuses other

theorem readsFirst : m.ReadsFirst name v w where
  get default := by
    rw [getHead tellable.hashable, some]
    rfl
  required := afterFirst plain tellable present some _ _
  upload accepted :=
    ⟨(uploadOfFirst plain tellable present some).1 accepted,
      (requiredUploadOfFirst plain tellable present some).1 accepted⟩
  noUpload other :=
    ⟨(uploadOfFirst plain tellable present some).2 other,
      (requiredUploadOfFirst plain tellable present some).2 other⟩
  noBoolean upload default := by
    obtain ⟨s, shown⟩ := tellable.shown w
    obtain ⟨_, _, _, _, _, rfl⟩ := isUploadIff.mp upload
    refine reportsAfter (askForSome plain tellable.hashable some) ?_
    exact reportsAfter shown (typeReported _ _ _ _ w)
  boolean s text default := by
    obtain ⟨t, shown⟩ := tellable.shown w
    cases text
    have asked := askForSome plain tellable.hashable some
    refine ⟨fun b reads => ?_, fun reads => reportsAfter asked ?_⟩
    · unfold getBoolean
      rw [bindOk asked]
      simp only [reads]
      rfl
    · simp only [reads]
      exact reportsAfter shown (typeReported _ _ _ _ w)
  number := numberOfFirst plain tellable present some

end

omit [Calls] in
theorem noValuesUnder : m.valuesUnder name w = [] ↔
    (w.parameters m).find? name = none ∨ ∃ tag, (w.parameters m).find? name = some (.tuple tag []) := by
  unfold valuesUnder
  cases (w.parameters m).find? name with
  | none => simp [row]
  | some stored => cases stored <;> simp [row]

omit [Calls] in
theorem declinesByKind (f : Fault) :
    (f.kind ∈ [Kind.wrongType, .wrongValue, .configuration, .attributeType] → f.declines = true) ∧
      (f.kind ∈ [Kind.attributeNotFound, .missingKey, .wrongState] → f.declines = false) := by
  unfold Fault.declines
  generalize f.kind = k
  constructor
  · revert k
    decide
  · revert k
    decide

end

section
variable [Calls] {m : ParameterMap} {w w₁ : World}

/-- Whatever happened since a parameter map was made, all its readers go by the first of the values
it lists under a name, and by their defaults or with a report where it lists none. -/
theorem readersGoByTheFirst {writable : Bool} {source : Value} {w₀ : World}
    (plain : w₀.Plain) (closed : ∀ c ∈ w₀.contexts, c.parameters.ref < w₀.parameterMaps.length)
    (made : create writable source w₀ = .ok m w₁) (steps : Reaches m w₁ w) {name : Value}
    (tellable : name.Tellable) :
    (∃ values, m.getArray name w =
        .ok (.list w.lists.length) { w with lists := w.lists.push values } ∧
      (values = [] ↔ (w.parameters m).find? name = none ∨
        ∃ tag, (w.parameters m).find? name = some (.tuple tag [])) ∧
      (values = [] → m.ReadsNone name w) ∧
      ∀ v rest, values = v :: rest → m.ReadsFirst name v w) ∧
    ∀ f : Fault,
      (f.kind ∈ [Kind.wrongType, .wrongValue, .configuration, .attributeType] →
        f.declines = true) ∧
      (f.kind ∈ [Kind.attributeNotFound, .missingKey, .wrongState] → f.declines = false) := by
  have keeping := (reachedKeeping steps (createdKeeping plain closed made)).1
  refine ⟨⟨m.valuesUnder name w, getArrayTells tellable.hashable, noValuesUnder, ?_, ?_⟩, ?_⟩
  · exact readsNone keeping.plain tellable
  · intro v rest some
    have inside : v ∈ m.valuesUnder name w := some ▸ List.mem_cons_self
    exact readsFirst keeping.plain tellable (heldNotNull keeping.held inside) some
  · exact declinesByKind

end

theorem convertedFirstOfRow :
    ∃ w₀ m w₁ w, create true (.dictionary 0) w₀ = .ok m w₁ ∧ Reaches m w₁ w ∧
      w.list 0 = [] ∧ m.ReadsNone (.text "y") w ∧ m.ReadsFirst (.text "x") (.text "7") w ∧
      ∃ r : Report,
        m.getNumber (.text "x") (.converter .refuseValue) .null w = .error (.report r) w ∧
        r.diagnosis = .attributeType (.text "x") .null ∧
        r.cause = some (.told .wrongValue "bad value") := by
  let w₀ : World :=
    { lists := [[.text "7", .text "8"], []]
      dictionaries := [[(.text "x", .list 0), (.text "y", .list 1)]] }
  have plain : w₀.Plain := fun _ _ _ => rfl
  have closed : ∀ c ∈ w₀.contexts, c.parameters.ref < w₀.parameterMaps.length := by
    intro c mem
    contradiction
  let m : ParameterMap := ⟨true, 0⟩
  obtain ⟨w₁, made⟩ : ∃ w₁, create true (.dictionary 0) w₀ = .ok m w₁ := ⟨_, rfl⟩
  have steps : Reaches m w₁ _ := .single (.event (.setList 0 []) trivial)
  obtain ⟨⟨none, listed, _, empty, _⟩, _⟩ :=
    readersGoByTheFirst plain closed made steps (Value.textTellable "y")
  obtain ⟨⟨some, listed', _, _, first⟩, _⟩ :=
    readersGoByTheFirst plain closed made steps (Value.textTellable "x")
  cases made
  cases listed
  cases listed'
  have reads := first (.text "7") [.text "8"] rfl
  obtain ⟨g, failed, converted⟩ :=
    (reads.number (.converter .refuseValue) .null).2 _ _ rfl
  refine ⟨w₀, m, _, _, rfl, steps, rfl, empty rfl, reads, ?_⟩
  cases converted with
  | declined _ _ about cause => exact ⟨_, failed, about, cause⟩
  | untold _ untold => cases untold
  | other keeps => contradiction

theorem declinedUntold :
    ¬ ∀ (source : Value) (w₀ w₁ : World) (m : ParameterMap), w₀.Plain →
      create true source w₀ = .ok m w₁ → ∀ name v rest converter f w',
        m.valuesUnder (.text name) w₁ = v :: rest →
        Calls.apply converter ⟨[v], []⟩ w₁ = .error f w' → f.declines = true →
        ∃ g, m.getNumber (.text name) converter .null w₁ = .error g w' ∧
          g.kind = .attributeType := by
  intro all
  let nameless : Value := .attributes 6 false (.list 0)
  let file : Value := .upload 7 nameless (.bytes []) (.text "") .null
  let w₀ : World := { lists := [[.int 0]], dictionaries := [[(.text "x", file)]] }
  have plain : w₀.Plain := fun _ _ _ => rfl
  obtain ⟨m, w₁, made, kept⟩ : ∃ m w₁, create true (.dictionary 0) w₀ = .ok m w₁ ∧
      m.valuesUnder (.text "x") w₁ = [file] := ⟨_, _, rfl, rfl⟩
  cases made
  obtain ⟨g, failed, about⟩ :=
    all (.dictionary 0) w₀ _ _ plain rfl "x" file [] (.converter .refuseField) _ _ kept rfl rfl
  cases failed
  contradiction

end ParameterMap

end FlowDouble
