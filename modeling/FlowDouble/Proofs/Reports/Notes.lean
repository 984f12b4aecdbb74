import FlowDouble.Proofs.Attributes.Required
import FlowDouble.Proofs.Ordering
import FlowDouble.Proofs.Parameters.Missing
import FlowDouble.Proofs.Seeding.Fold
/-! What failed lookups and seedings note for debugging: the key or the field, unless it is empty, and
the kinds of what was expected and of what is stored, the latter unless nothing is stored. -/
namespace FlowDouble

open FlowDouble.Action

def Fault.notes : Fault → Option Entries
  | .report r => some r.debug
  | _ => none

namespace Report

def misfit (name v : Value) : Entries :=
  (.text "expected_type", name) ::
    if v.isNull then [] else [(.text "actual_type", .text v.kindOf.name)]

theorem misfitMade {w : World} {k : Kind} {name : Value} (named : kindName w (.kind k) = .ok name)
    (message key v : Value) (metadata : Entries) :
    ∃ r, attributeType w message key (.kind k) v metadata = .ok r ∧
      r.diagnosis = .attributeType key (.kind k) ∧ r.debug = misfit name v := by
  have noted : expectedNote w (.kind k) = .ok [(.text "expected_type", name)] := by
    have run : expectedNote w (.kind k) =
        (do return [(.text "expected_type", ← kindName w (.kind k))]) := rfl
    rw [run, named]
    rfl
  have actual : actualNote v =
      if v.isNull then [] else [(.text "actual_type", .text v.kindOf.name)] := by
    cases v <;> rfl
  unfold attributeType
  rw [noted, actual]
  exact ⟨_, rfl, rfl, rfl⟩

end Report

namespace Attributes

variable [Calls] {w : World} {backing v expected : Value} {s : String}

inductive Fails (w : World) (map : Value) (s : String) (expected : Value) : Fault → Prop where
  | missing {r : Report} (about : r.diagnosis = .attributeNotFound (.text s))
      (debug : r.debug = Report.noted "missing_key" s) : Fails w map s expected (.report r)
  | misfit {r : Report} {v name : Value} (about : r.diagnosis = .attributeType (.text s) expected)
      (found : w.item map (.text s) = .ok v) (named : Report.kindName w expected = .ok name)
      (debug : r.debug = Report.misfit name v) : Fails w map s expected (.report r)
  | unordered {f : Fault} (unordered : Snapshot.Unordered f) : Fails w map s expected f

theorem judgeFails {f : Fault} {w' : World} (found : w.item backing (.text s) = .ok v)
    (expectable : Expectable w expected) (failed : judge (.text s) v expected w = .error f w') :
    Fails w backing s expected f := by
  cases expectable with
  | anything => contradiction
  | @kind k well =>
    by_cases falls : v.kindOf.Falls k
    · rw [judgeFits (.kind falls)] at failed
      contradiction
    · have misfit : v.isA k = false := Bool.eq_false_iff.mpr (mt Kind.underIff.mp falls)
      obtain ⟨name, named⟩ := Report.kindNamed well
      obtain ⟨r, made, about, debug⟩ := Report.misfitMade named
        (.text ("Attribute '" ++ s ++ "' is not of type " ++ name)) (.text s) v []
      have refused : judge (.text s) v (.kind k) w = .error (.report r) w := by
        have told := instanceTold v k w
        rw [misfit] at told
        have kept : (ofExcept (Report.kindName w (.kind k)) : Action Value) w = .ok (.text name) w := by
          rw [named]
          rfl
        refine (bindOk told).trans ((bindOk (shownText s w)).trans ?_)
        rw [worldBind]
        refine (bindOk kept).trans ((bindOk (shownText name w)).trans ?_)
        unfold refuseType
        rw [worldBind, made]
        rfl
      rw [refused] at failed
      cases failed
      exact .misfit about found named debug

theorem availableFails {f : Fault} {w' : World} (there : w.HasMap backing) (formed : w.Formed)
    (failed : available backing w = .error f w') : Snapshot.Unordered f := by
  have sound := formed.itemsSound there.root
  have hashable : ∀ key ∈ Entries.keys (w.items backing).items, key.hashable = true := by
    intro key mem
    obtain ⟨e, inside, rfl⟩ := List.mem_map.mp mem
    exact sound.hashable e inside
  have sorted := w.keysOrdered hashable
  unfold available at failed
  rw [bindOk there.elements, worldBind] at failed
  cases h : Sorting.sort (fun a b => (w.snapshot a).less (w.snapshot b))
      (Entries.keys (w.items backing).items) with
  | ok keys =>
    rw [h] at failed
    cases keys <;> contradiction
  | error e =>
    rw [h] at failed sorted
    cases failed
    exact sorted

theorem requiredFails {f : Fault} {w' : World} (there : w.HasMap backing) (formed : w.Formed)
    (expectable : Expectable w expected)
    (failed : getRequired backing (.text s) expected w = .error f w') :
    Fails w backing s expected f := by
  have hashable : (Value.text s).hashable = true := rfl
  have itemFound := there.itemFound hashable
  cases found : Entries.find? (.text s) (w.items backing).items with
  | some v =>
    rw [found] at itemFound
    rw [requiredFound there itemFound] at failed
    exact judgeFails itemFound expectable failed
  | none =>
    have absent : Entries.has (w.items backing).items (.text s) = false := by simp [Entries.has, found]
    have contained := there.contains hashable
    rw [absent] at contained
    have run : getRequired backing (.text s) expected w = (do
        let row ← available backing
        refuseMissing ("Required attribute '" ++ s ++ "' is not present") (.text s)
          [(.text "available", row)] : Action Value) w :=
      (bindOk contained).trans (bindOk (shownText s w))
    rw [run] at failed
    cases told : available backing w with
    | error e w₁ =>
      rw [bindError told] at failed
      cases failed
      exact .unordered (availableFails there formed told)
    | ok row w₁ =>
      rw [bindOk told, refusedMissing] at failed
      cases failed
      exact .missing rfl rfl

end Attributes

namespace ParameterMap

theorem performGetRequiredUpload (m : ParameterMap) (name : Value) :
    (Value.parameters m).perform "get_required_multipart_file" ⟨[name], []⟩ =
      m.getRequiredUpload name := by
  obtain ⟨writable, ref⟩ := m
  cases writable <;> rfl

theorem missingNoted {m : ParameterMap} {w w' : World} {operation s : String} {f : Fault}
    (plain : w.Plain) (asked : operation ∈ ["get_required", "get_required_multipart_file"])
    (failed : (Value.parameters m).perform operation ⟨[.text s], []⟩ w = .error f w')
    (kind : f.kind = .attributeNotFound) : f.notes = some (Report.noted "missing_key" s) := by
  rcases List.mem_cons.mp asked with rfl | asked
  · rw [lacksTold plain ⟨w', failed, kind⟩]
    rfl
  · rw [List.mem_singleton.mp asked, performGetRequiredUpload] at failed
    rcases requiredUploadEnds plain m s with told | ⟨v, got⟩ | ⟨r, refused, about⟩
    · rw [told] at failed
      cases failed
      rfl
    · rw [got] at failed
      contradiction
    · rw [refused] at failed
      cases failed
      have other : (Fault.report r).kind = .attributeType := congrArg Diagnosis.kind about
      rw [other] at kind
      contradiction

end ParameterMap

namespace Context

theorem unknownNoted (name : String) :
    (Fault.report (unknownReport name)).notes = some (Report.noted "configuration_field" name) := by
  unfold unknownReport
  cases Text.closest name settableFields <;> rfl

theorem seedStopsUnknown {r : Nat} {w w₁ : World} {before after : List (String × Value)}
    {name : String} {value : Value} (free : Unreserved (before ++ (name, value) :: after))
    (done : Script.seedOn (.context r) before w = .ok (.context r) w₁)
    (unknown : name ∉ settableFields) :
    Script.seedOn (.context r) (before ++ (name, value) :: after) w =
      .error (.report (unknownReport name)) w₁ := by
  obtain ⟨_, _, first⟩ := seedOnInv done
  rw [seedOnFails free, seedAllAppend, bindOk first]
  exact bindError (seedUnknown unknown value w₁)

end Context

open Attributes (Expectable)

/-- Each failed lookup and each field that is unknown leaves a note of its name, unless the name is
empty, and each misfit one of both kinds, unless nothing is stored. -/
theorem failuresNoteTheirCause (w : World) (name : String) :
    (∀ (w' : World) (tag : Nat) (shared : Bool) (backing expected : Value) (f : Fault),
      w.HasMap backing → w.Formed → Expectable w expected →
      let map : Value := .attributes tag shared backing
      Attributes.perform map backing (.getRequired (.text name) expected) w = .error f w' →
      (f.kind = .attributeNotFound → f.notes = some (Report.noted "missing_key" name)) ∧
      (f.kind = .attributeType → ∃ v kind, w.item map (.text name) = .ok v ∧
        Report.kindName w expected = .ok kind ∧ f.notes = some (Report.misfit kind v))) ∧
    (∀ (w' : World) (m : ParameterMap) (f : Fault), w.Plain →
      ∀ operation ∈ ["get_required", "get_required_multipart_file"],
      (Value.parameters m).perform operation ⟨[.text name], []⟩ w = .error f w' →
      f.kind = .attributeNotFound → f.notes = some (Report.noted "missing_key" name)) ∧
    (∀ (r : Nat) (w₁ : World) (before after : List (String × Value)) (value : Value),
      Context.Unreserved (before ++ (name, value) :: after) →
      Script.seedOn (.context r) before w = .ok (.context r) w₁ → name ∉ settableFields →
      ∃ f, Script.seedOn (.context r) (before ++ (name, value) :: after) w = .error f w₁ ∧
        f.kind = .configuration ∧ f.notes = some (Report.noted "configuration_field" name)) := by
  refine ⟨?_, ?_, ?_⟩
  · intro w' tag shared backing expected f there formed expectable map failed
    have fails : Attributes.Fails w backing name expected f :=
      Attributes.requiredFails there formed expectable failed
    cases fails with
    | @missing r about debug =>
      have kind : (Fault.report r).kind = .attributeNotFound := congrArg Diagnosis.kind about
      exact ⟨fun _ => congrArg some debug, fun other => by rw [kind] at other; contradiction⟩
    | @misfit r v wanted about found named debug =>
      have kind : (Fault.report r).kind = .attributeType := congrArg Diagnosis.kind about
      exact ⟨fun other => by rw [kind] at other; contradiction,
        fun _ => ⟨v, wanted, found, named, congrArg some debug⟩⟩
    | unordered unordered =>
      obtain ⟨a, b, rfl⟩ := unordered
      exact ⟨nofun, nofun⟩
  · intro w' m f plain operation asked failed kind
    exact ParameterMap.missingNoted plain asked failed kind
  · intro r w₁ before after value free done unknown
    exact ⟨_, Context.seedStopsUnknown free done unknown, unknownKind name,
      Context.unknownNoted name⟩

theorem plainNamesNoted :
    let w : World := Context.started { dictionaries := [[(.text "a", .text "1")]] }
    let map : Value := .attributes 0 false (.dictionary 0)
    (∃ f w', Attributes.perform map (.dictionary 0) (.getRequired (.text "b") .null) w = .error f w' ∧
      f.notes = some [(.text "missing_key", .text "b")]) ∧
    (∃ f w' v name, Attributes.perform map (.dictionary 0) (.getRequired (.text "a") (.kind .int)) w =
        .error f w' ∧ w.item map (.text "a") = .ok v ∧
      Report.kindName w (.kind .int) = .ok name ∧ f.notes = some (Report.misfit name v)) ∧
    (∃ f w', (Value.parameters ⟨true, 0⟩).perform "get_required_multipart_file" ⟨[.text "b"], []⟩ w =
        .error f w' ∧ f.notes = some [(.text "missing_key", .text "b")]) ∧
    ∃ f w', Script.seedOn (.context 0) [("locale", .text "en"), ("b", .null)] w = .error f w' ∧
      f.notes = some [(.text "configuration_field", .text "b")] := by
  intro w map
  have formed : w.Formed := by
    refine (Context.reachableFormed (Context.reachableStarted (Context.formedStart ?_))).1
    intro es mem
    rw [List.mem_singleton.mp mem]
    exact ⟨by decide, by decide⟩
  have there : w.HasMap (.dictionary 0) := .inl ⟨0, by decide, rfl⟩
  obtain ⟨missed, absents, seeded⟩ := failuresNoteTheirCause w "b"
  obtain ⟨misfits, _, _⟩ := failuresNoteTheirCause w "a"
  obtain ⟨f, w₁, missing, missingKind⟩ : ∃ f w₁,
      Attributes.perform map (.dictionary 0) (.getRequired (.text "b") .null) w = .error f w₁ ∧
        f.kind = .attributeNotFound := ⟨_, _, rfl, rfl⟩
  obtain ⟨g, w₂, misfit, misfitKind⟩ : ∃ g w₂,
      Attributes.perform map (.dictionary 0) (.getRequired (.text "a") (.kind .int)) w = .error g w₂ ∧
        g.kind = .attributeType := ⟨_, _, rfl, rfl⟩
  obtain ⟨h, w₃, absent, absentKind⟩ : ∃ h w₃,
      (Value.parameters ⟨true, 0⟩).perform "get_required_multipart_file" ⟨[.text "b"], []⟩ w =
        .error h w₃ ∧ h.kind = .attributeNotFound := ⟨_, _, rfl, rfl⟩
  obtain ⟨u, unknown, _, noted⟩ := seeded 0 _ [("locale", .text "en")] [] .null (by decide) rfl
    (by decide)
  obtain ⟨v, name, found, named, both⟩ :=
    (misfits w₂ 0 false _ _ g there formed (.kind nofun) misfit).2 misfitKind
  exact ⟨⟨f, w₁, missing, (missed w₁ 0 false _ _ f there formed .anything missing).1 missingKind⟩,
    ⟨g, w₂, v, name, misfit, found, named, both⟩,
    ⟨h, w₃, absent, absents w₃ _ h formed.plain _ (by decide) absent absentKind⟩,
    u, _, unknown, noted⟩

theorem emptyNamesUnnoted :
    let w : World := Context.started { dictionaries := [[(.text "a", .null)]] }
    let map : Value := .attributes 0 false (.dictionary 0)
    (∃ f w', Attributes.perform map (.dictionary 0) (.getRequired (.text "") .null) w = .error f w' ∧
      f.kind = .attributeNotFound ∧ f.notes ≠ some [(.text "missing_key", .text "")]) ∧
    (∃ f w', Attributes.perform map (.dictionary 0) (.getRequired (.text "a") (.kind .int)) w =
        .error f w' ∧ f.kind = .attributeType ∧ f.notes ≠
          some [(.text "expected_type", .text "int"), (.text "actual_type", .text "NoneType")]) ∧
    (∃ f w', (Value.parameters ⟨true, 0⟩).perform "get_required" ⟨[.text ""], []⟩ w = .error f w' ∧
      f.kind = .attributeNotFound ∧ f.notes ≠ some [(.text "missing_key", .text "")]) ∧
    (∃ f w', (Value.parameters ⟨true, 0⟩).perform "get_required_multipart_file" ⟨[.text ""], []⟩ w =
        .error f w' ∧ f.kind = .attributeNotFound ∧
      f.notes ≠ some [(.text "missing_key", .text "")]) ∧
    ∃ f w', Script.seedOn (.context 0) [("", .null)] w = .error f w' ∧ f.kind = .configuration ∧
      f.notes ≠ some [(.text "configuration_field", .text "")] := by
  intro w map
  have seeded : Script.seedOn (.context 0) [("", .null)] w = .error (.report (unknownReport "")) w :=
    have none : Script.seedOn (.context 0) [] w = .ok (.context 0) w := rfl
    Context.seedStopsUnknown (by decide) none (by decide)
  refine ⟨⟨_, _, rfl, rfl, ?_⟩, ⟨_, _, rfl, rfl, ?_⟩, ⟨_, _, rfl, rfl, ?_⟩, ⟨_, _, rfl, rfl, ?_⟩,
    _, _, seeded, unknownKind "", ?_⟩
  · exact nofun
  · exact nofun
  · exact nofun
  · exact nofun
  · rw [Context.unknownNoted]
    exact nofun

end FlowDouble
