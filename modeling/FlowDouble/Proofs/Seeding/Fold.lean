import FlowDouble.Proofs.Context.Redirects
import FlowDouble.Proofs.Context.Refusals
import FlowDouble.Script.Request
/-! Seeding is a fold over the fields that stops at the first failure. A failed seeding has done what
the fields before the offending one do, and of that field only what comes before the entry it failed
at. -/
namespace FlowDouble

open FlowDouble.Action

namespace Action

variable {α : Type} {w w' : World} {f : Fault}

theorem bindFails {a : Action α} {next : α → Action Unit} (failed : (a >>= next) w = .error f w') :
    a w = .error f w' ∨ ∃ v w₁, a w = .ok v w₁ ∧ next v w₁ = .error f w' := by
  cases h : a w with
  | ok v w₁ => exact .inr ⟨v, w₁, rfl, by rwa [bindOk h] at failed⟩
  | error e w₁ =>
    rw [bindError h] at failed
    cases failed
    exact .inl rfl

theorem forPairsFails {act : Value → Value → Action Unit} {pairs : List (Value × Value)}
    (failed : Value.forPairs act pairs w = .error f w') :
    ∃ done k v rest w₁, pairs = done ++ (k, v) :: rest ∧
      Value.forPairs act done w = .ok () w₁ ∧ act k v w₁ = .error f w' := by
  induction pairs generalizing w with
  | nil => contradiction
  | cons p pairs ih =>
    rcases bindFails failed with first | ⟨_, w₁, first, later⟩
    · exact ⟨[], p.1, p.2, pairs, w, rfl, rfl, first⟩
    · obtain ⟨done, k, v, rest, w₂, rfl, before, offending⟩ := ih later
      exact ⟨p :: done, k, v, rest, w₂, rfl, (bindOk first).trans before, offending⟩

theorem forPairsSame {act other : Value → Value → Action Unit}
    (same : ∀ w k v, w.Plain → act k v w = other k v w) (keeps : ∀ k v, Within Upholds (act k v))
    (plain : w.Plain) (pairs : List (Value × Value)) :
    Value.forPairs act pairs w = Value.forPairs other pairs w := by
  induction pairs generalizing w with
  | nil => rfl
  | cons p pairs ih =>
    have first := same w p.1 p.2 plain
    unfold Value.forPairs
    cases h : act p.1 p.2 w with
    | error e w₁ => rw [bindError h, bindError (first.symm.trans h)]
    | ok u w₁ =>
      have after : Upholds w w₁ := leavesOk h ▸ keeps p.1 p.2 w plain
      rw [bindOk h, bindOk (first.symm.trans h)]
      exact ih (World.plainKept after.attachments plain)

end Action

theorem Field.unnamed {name : String} : Field.named? name = none ↔ name ∉ settableFields := by
  simp [named?, settableFields]

theorem Field.namedOwn (f : Field) : Field.named? f.name = some f := by
  cases f with
  | setting s => cases s <;> decide
  | parameters => decide
  | event => decide

theorem Field.namedIff {name : String} {f : Field} : Field.named? name = some f ↔ name = f.name := by
  constructor
  · intro named
    have same : f.name = name := by simpa using List.find?_some named
    exact same.symm
  · rintro rfl
    exact namedOwn f

theorem Field.nameInjective {f g : Field} (same : f.name = g.name) : f = g := by
  have named := Field.namedOwn f
  rw [same, Field.namedOwn] at named
  exact (Option.some.inj named).symm

def unknownReport (name : String) : Report :=
  let report : Report :=
    { diagnosis := .configuration
      message := .text (Kind.context.name ++ " has no settable field '" ++ name ++ "'")
      metadata := [(.text "field", .text name)]
      debug := if name.isEmpty then [] else [(.text "configuration_field", .text name)] }
  match Text.closest name settableFields with
  | some close => report.suggest (.text ("Use '" ++ close ++ "' instead of '" ++ name ++ "'"))
  | none => report

theorem unknownTold (w : World) (name : String) :
    unknownField w name = .ok (unknownReport name) := by
  have noted : Report.noteOf w "configuration_field" (.text name) =
      .ok (if name.isEmpty then [] else [(.text "configuration_field", .text name)]) := by
    have truth : w.truthy (.text name) = .ok (!name.isEmpty) := rfl
    unfold Report.noteOf
    rw [truth]
    cases name.isEmpty <;> rfl
  unfold unknownField unknownReport Report.configuration
  rw [noted]
  cases Text.closest name settableFields <;> rfl

theorem unknownKind (name : String) : (Fault.report (unknownReport name)).kind = .configuration := by
  unfold unknownReport
  cases Text.closest name settableFields <;> rfl

namespace Context

variable [Calls] {r : Nat} {w w' : World} {f : Fault}

def Unreserved (fields : List (String × Value)) : Prop := ∀ x ∈ fields, x.1 ≠ reservedField

instance (fields : List (String × Value)) : Decidable (Unreserved fields) :=
  inferInstanceAs (Decidable (∀ x ∈ fields, x.1 ≠ reservedField))

theorem seedUnreserved {fields : List (String × Value)} (free : Unreserved fields) :
    seed r fields = seedAll r fields := by
  have none : fields.any (·.1 == reservedField) = false := by
    simpa [Unreserved] using free
  unfold seed checkReserved
  rw [none]
  rfl

theorem seedReserved {fields : List (String × Value)} (taken : ¬ Unreserved fields) (w : World) :
    seed r fields w =
      .error (.misuse (.call "seed_context" (.givenTwice reservedField))) w := by
  have any : fields.any (·.1 == reservedField) = true := by
    simpa [Unreserved] using taken
  have refused : checkReserved fields =
      misuse (.call "seed_context" (.givenTwice reservedField)) := if_pos any
  unfold seed
  rw [refused]
  rfl

theorem seedAllPlain {fields : List (String × Value)} (free : Unreserved fields) (plain : w.Plain)
    (done : seedAll r fields w = .ok () w') : w'.Plain := by
  have after := seedReassigns r fields w plain
  rw [seedUnreserved free, leavesOk done] at after
  exact World.plainKept after.steady.attachments plain

theorem seedAllAppend (first second : List (String × Value)) :
    seedAll r (first ++ second) = (do seedAll r first; seedAll r second) := by
  induction first with
  | nil => rfl
  | cons x first ih =>
    have step (rest : List (String × Value)) : seedAll r (x :: rest) = (do
      seedField r x.1 x.2
      seedAll r rest : Action Unit) := rfl
    rw [List.cons_append, step, step, ih, bind_assoc]

theorem seedAllFails {fields : List (String × Value)} (failed : seedAll r fields w = .error f w') :
    ∃ before name value after w₁, fields = before ++ (name, value) :: after ∧
      seedAll r before w = .ok () w₁ ∧ seedField r name value w₁ = .error f w' := by
  induction fields generalizing w with
  | nil => contradiction
  | cons x fields ih =>
    rcases bindFails failed with first | ⟨_, w₁, first, later⟩
    · exact ⟨[], x.1, x.2, fields, w, rfl, rfl, first⟩
    · obtain ⟨before, name, value, after, w₂, rfl, done, offending⟩ := ih later
      exact ⟨x :: before, name, value, after, w₂, rfl, (bindOk first).trans done, offending⟩

theorem seedOne (name : String) (value : Value) :
    seedAll r [(name, value)] w = seedField r name value w := by
  have one : seedAll r [(name, value)] = (do
      seedField r name value
      return () : Action Unit) := rfl
  rw [one]
  cases h : seedField r name value w with
  | ok u w₁ => exact bindOk h
  | error e w₁ => exact bindError h

theorem seedUnknown {name : String} (unknown : name ∉ settableFields) (value : Value) (w : World) :
    seedField r name value w = .error (.report (unknownReport name)) w := by
  unfold seedField
  rw [Field.unnamed.mpr unknown]
  show (refuseWith (unknownField w name) : Action Unit) w = _
  rw [unknownTold]
  rfl

theorem seedParameters (plain : w.Plain) {m : Value} (mapping : m.isMapping = true) :
    seedField r "parameters" m w = Value.forYield (putParameter r) (w.items m) w := by
  have asked : seedField r "parameters" m = m.forItems (askToPut r) := rfl
  rw [asked, forItemsPlain plain, if_pos mapping]
  have pairs := forPairsSame (fun _ k v plain => askToPutPlain plain k v)
    (askToPutUpholds r) plain (w.items m).items
  unfold Value.forYield
  cases h : Value.forPairs (askToPut r) (w.items m).items w with
  | ok u w₁ => rw [bindOk h, bindOk (pairs ▸ h)]
  | error e w₁ => rw [bindError h, bindError (pairs ▸ h)]

inductive Stops (r : Nat) (w : World) : String → Value → Fault → World → Prop where
  | unknown {name value} (unknown : name ∉ settableFields) :
      Stops r w name value (.report (unknownReport name)) w
  | entry {m done k v rest w₁ f w'} (listed : (w.items m).items = done ++ (k, v) :: rest)
      (applied : Value.forPairs (putParameter r) done w = .ok () w₁)
      (refused : putParameter r k v w₁ = .error f w') (spares : Spared w₁ w') :
      Stops r w "parameters" m f w'
  | listing {m w₁ f} (applied : Value.forPairs (putParameter r) (w.items m).items w = .ok () w₁)
      (unlisted : (w.items m).fault = some f) : Stops r w "parameters" m f w₁
  | noMapping {m f} (other : m.isMapping = false) : Stops r w "parameters" m f w
  | refused {name value f w'} (known : name ∈ settableFields) (other : name ≠ "parameters")
      (spares : Spared w w') : Stops r w name value f w'

theorem parametersStop (plain : w.Plain) {m : Value}
    (failed : seedField r "parameters" m w = .error f w') : Stops r w "parameters" m f w' := by
  by_cases mapping : m.isMapping = true
  · rw [seedParameters plain mapping] at failed
    rcases bindFails failed with first | ⟨_, w₁, applied, last⟩
    · obtain ⟨done, k, v, rest, w₁, listed, applied, refused⟩ := forPairsFails first
      have puts : Within Upholds (Value.forPairs (putParameter r) done) :=
        withinForPairs upholds fun p _ => putParameterUpholds r p.1 p.2
      have after : Upholds w w₁ := leavesOk applied ▸ puts w plain
      have plain₁ := World.plainKept after.attachments plain
      exact .entry listed applied refused (putParameterSpares plain₁ refused)
    · unfold finish at last
      cases fault : (w.items m).fault with
      | none =>
        rw [fault] at last
        contradiction
      | some e =>
        rw [fault] at last
        cases last
        exact .listing applied fault
  · have asked : seedField r "parameters" m = m.forItems (askToPut r) := rfl
    have stays := withinMissing (α := Unit) unchanged m "items" w plain
    rw [asked, forItemsPlain plain, if_neg mapping] at failed
    rw [leavesError failed] at stays
    rw [show w' = w from stays]
    exact .noMapping (Bool.eq_false_iff.mpr mapping)

theorem fieldStops (plain : w.Plain) {name : String} {value : Value}
    (failed : seedField r name value w = .error f w') : Stops r w name value f w' := by
  cases named : Field.named? name with
  | none =>
    have unknown := Field.unnamed.mp named
    rw [seedUnknown unknown] at failed
    cases failed
    exact .unknown unknown
  | some field =>
    obtain rfl := Field.namedIff.mp named
    have known : field.name ∈ settableFields := List.mem_map_of_mem (Field.everyField field)
    unfold seedField at failed
    rw [named] at failed
    cases field with
    | setting s =>
      have other : s.name ≠ "parameters" := by cases s <;> decide
      exact .refused known other (assignSpares plain failed)
    | parameters => exact parametersStop plain failed
    | event =>
      have other : Field.event.name ≠ "parameters" := by decide
      have signalled : askToSignal r value w = .error f w' := failed
      rw [askToSignalPlain plain] at signalled
      exact .refused known other (putParameterSpares plain signalled)

theorem seedAllNames {fields : List (String × Value)} {u : Unit}
    (done : seedAll r fields w = .ok u w') : ∀ x ∈ fields, x.1 ∈ settableFields := by
  induction fields generalizing w with
  | nil => simp
  | cons x fields ih =>
    obtain ⟨_, w₁, first, later⟩ := bindInv done
    refine List.forall_mem_cons.mpr ⟨?_, ih later⟩
    refine Decidable.byContradiction fun unknown => ?_
    rw [seedUnknown unknown] at first
    contradiction

end Context

namespace Context

variable {r : Nat} {w w' : World} {f : Fault}

theorem seedOnUnreserved {fields : List (String × Value)} (free : Unreserved fields) :
    Script.seedOn (.context r) fields = (do seedAll r fields; return .context r) := by
  unfold Script.seedOn
  simp only
  rw [seedUnreserved free]

theorem seedOnAppend {first second : List (String × Value)} (free : Unreserved (first ++ second)) :
    Script.seedOn (.context r) (first ++ second) = (do
      let c ← Script.seedOn (.context r) first
      Script.seedOn c second) := by
  have left : Unreserved first := fun x mem => free x (List.mem_append_left _ mem)
  have right : Unreserved second := fun x mem => free x (List.mem_append_right _ mem)
  rw [seedOnUnreserved free, seedOnUnreserved left, seedAllAppend]
  simp only [bind_assoc, pure_bind, seedOnUnreserved right]

theorem seedOnOk {fields : List (String × Value)} {v : Value} (free : Unreserved fields) :
    Script.seedOn (.context r) fields w = .ok v w' ↔
      v = .context r ∧ seedAll r fields w = .ok () w' := by
  rw [seedOnUnreserved free]
  cases h : seedAll r fields w with
  | ok u w₁ =>
    rw [bindOk h]
    constructor
    · intro done
      cases done
      exact ⟨rfl, rfl⟩
    · rintro ⟨rfl, done⟩
      cases done
      rfl
  | error e w₁ =>
    rw [bindError h]
    simp

theorem seedOnInv {fields : List (String × Value)} {v : Value}
    (done : Script.seedOn (.context r) fields w = .ok v w') :
    Unreserved fields ∧ v = .context r ∧ seedAll r fields w = .ok () w' := by
  have free : Unreserved fields := by
    refine Decidable.byContradiction fun reserved => ?_
    have refused : Script.seedOn (.context r) fields w = _ := bindError (seedReserved reserved w)
    rw [refused] at done
    contradiction
  exact ⟨free, (seedOnOk free).mp done⟩

theorem seedOnFails {fields : List (String × Value)} (free : Unreserved fields) :
    Script.seedOn (.context r) fields w = .error f w' ↔ seedAll r fields w = .error f w' := by
  rw [seedOnUnreserved free]
  cases h : seedAll r fields w with
  | ok u w₁ =>
    rw [bindOk h]
    simp [pure, EStateM.pure]
  | error e w₁ =>
    rw [bindError h]
    simp

/-- Seeding is a fold over the fields, and over the entries of the parameters among them, that
returns the context it was given or stops at the first failure. -/
theorem seedingFoldsFields (r : Nat) :
    (∀ first second, Unreserved (first ++ second) →
      Script.seedOn (.context r) (first ++ second) = (do
        let c ← Script.seedOn (.context r) first
        Script.seedOn c second)) ∧
    (∀ w m, w.Plain → m.isMapping = true →
      Script.seedOn (.context r) [("parameters", m)] w = (do
        Value.forPairs (putParameter r) (w.items m).items
        finish (w.items m)
        return .context r : Action Value) w) ∧
    (∀ fields w v w', Unreserved fields → Script.seedOn (.context r) fields w = .ok v w' →
      v = .context r ∧ ∀ x ∈ fields, x.1 ∈ settableFields) ∧
    (∀ fields w f w', w.Plain → Unreserved fields →
      Script.seedOn (.context r) fields w = .error f w' →
      ∃ before name value after w₁, fields = before ++ (name, value) :: after ∧
        Script.seedOn (.context r) before w = .ok (.context r) w₁ ∧
        Script.seedOn (.context r) [(name, value)] w₁ = .error f w' ∧
        Stops r w₁ name value f w') ∧
    (∀ name value w, name ∉ settableFields → name ≠ reservedField →
      Script.seedOn (.context r) [(name, value)] w = .error (.report (unknownReport name)) w ∧
        (Fault.report (unknownReport name)).kind = .configuration) := by
  have single {name value} (other : name ≠ reservedField) : Unreserved [(name, value)] := by
    simpa [Unreserved] using other
  refine ⟨fun first second free => seedOnAppend free, fun w m plain mapping => ?_,
    fun fields w v w' free done => ?_, fun fields w f w' plain free failed => ?_,
    fun name value w unknown other => ⟨?_, unknownKind name⟩⟩
  · rw [seedOnUnreserved (single (by decide))]
    have same := (seedOne (r := r) "parameters" m).trans (seedParameters plain mapping)
    have rest : (do
        Value.forPairs (putParameter r) (w.items m).items
        finish (w.items m)
        return .context r : Action Value) = (do
          Value.forYield (putParameter r) (w.items m)
          return .context r) := by
      unfold Value.forYield
      rw [bind_assoc]
    rw [rest]
    cases h : Value.forYield (putParameter r) (w.items m) w with
    | ok u w₁ => rw [bindOk h, bindOk (same.trans h)]
    | error e w₁ => rw [bindError h, bindError (same.trans h)]
  · obtain ⟨itself, done⟩ := (seedOnOk free).mp done
    exact ⟨itself, seedAllNames done⟩
  · obtain ⟨before, name, value, after, w₁, rfl, done, offending⟩ :=
      seedAllFails ((seedOnFails free).mp failed)
    have left : Unreserved before := fun x mem => free x (List.mem_append_left _ mem)
    have own : name ≠ reservedField := free (name, value) (by simp)
    refine ⟨before, name, value, after, w₁, rfl, (seedOnOk left).mpr ⟨rfl, done⟩, ?_, ?_⟩
    · exact (seedOnFails (single own)).mpr ((seedOne name value).trans offending)
    · exact fieldStops (seedAllPlain left plain done) offending
  · rw [seedOnFails (single other), seedOne, seedUnknown unknown]

theorem seedingStopsAtBadParameter :
    ∃ w f w' before name value after w₁, w.Plain ∧
      [("context_path", .text "/app"), ("parameters", .dictionary 0), ("locale", .text "fr")] =
        before ++ (name, value) :: after ∧
      Script.seedOn (.context 0) before w = .ok (.context 0) w₁ ∧
      Script.seedOn (.context 0) [(name, value)] w₁ = .error f w' ∧
      Stops 0 w₁ name value f w' ∧
      (w'.context 0).contextPath = .text "/app" ∧ (w'.context 0).locale = .null ∧
      w'.parameters (w'.context 0).parameters = [(.text "a", .text "1")] := by
  let start : World := { dictionaries := [[(.text "a", .text "1"), (.text "b", .int 5)]] }
  have plain : (started start).Plain := fun _ _ _ => rfl
  obtain ⟨f, w', failed, path, locale, entries⟩ : ∃ f w', Script.seedOn (.context 0)
      [("context_path", .text "/app"), ("parameters", .dictionary 0), ("locale", .text "fr")]
        (started start) = .error f w' ∧ (w'.context 0).contextPath = .text "/app" ∧
      (w'.context 0).locale = .null ∧
      w'.parameters (w'.context 0).parameters = [(.text "a", .text "1")] :=
    ⟨_, _, rfl, rfl, rfl, rfl⟩
  obtain ⟨before, name, value, after, w₁, split, done, offending, stops⟩ :=
    (seedingFoldsFields 0).2.2.2.1 _ _ _ _ plain (by decide) failed
  exact ⟨_, f, w', before, name, value, after, w₁, plain, split, done, offending, stops, path,
    locale, entries⟩

end Context

end FlowDouble
