import FlowDouble.Proofs.Reports.Notes
import FlowDouble.Proofs.Seeding.Settable
import FlowDouble.Proofs.Text.Likeness
import Mathlib.Tactic.NormNum
/-! The name suggested for an unknown field is that of the settable field most like it. Under that name
the field is not refused as unknown again. -/
namespace FlowDouble.Context

open Text (Closest Similar)

variable {r : Nat} {w w₁ : World} {before after : List (String × Value)} {name : String}
variable {value : Value}

def useInstead (name close : String) : Value :=
  .text ("Use '" ++ close ++ "' instead of '" ++ name ++ "'")

theorem unknownSuggests (name : String) :
    (unknownReport name).suggestions =
      ((Text.closest name settableFields).map (useInstead name)).toList := by
  unfold unknownReport
  cases Text.closest name settableFields <;> rfl

theorem unknownAfter {other : String} {w' : World} (settable : ∀ x ∈ before, x.1 ∈ settableFields)
    (known : name ∈ settableFields) (plain : w.Plain)
    (failed : Script.seedOn (.context r) (before ++ (name, value) :: after) w =
      .error (.report (unknownReport other)) w') :
    other ∈ after.map Prod.fst ∧ other ∉ settableFields := by
  obtain ⟨start, v, rest, w₂, split, _, unknown⟩ := seedOnUnknown plain failed
  have inside : (other, v) ∈ before ++ (name, value) :: after := split ▸ by simp
  refine ⟨?_, unknown⟩
  rcases List.mem_append.mp inside with early | late
  · exact absurd (settable _ early) unknown
  · rcases List.mem_cons.mp late with same | later
    · exact absurd ((Prod.mk.inj same).1 ▸ known) unknown
    · exact List.mem_map_of_mem later

/-- Seeding stops at the first unknown field with at most one hint. There is one exactly if a settable
field is close to the name, and it tells the one most like the name, which the cheap measures never
leave out. With that name in its place a seeding of any context can come to a later unknown field only,
as long as nothing hides what values answer for themselves. -/
theorem suggestionIsClosestField (free : Unreserved (before ++ (name, value) :: after))
    (done : Script.seedOn (.context r) before w = .ok (.context r) w₁)
    (unknown : name ∉ settableFields) :
    ∃ report : Report,
      Script.seedOn (.context r) (before ++ (name, value) :: after) w = .error (.report report) w₁ ∧
      report.diagnosis.kind = .configuration ∧ report.suggestions.length ≤ 1 ∧
      (report.suggestions.length = 1 ↔
        ∃ field ∈ settableFields, ∃ q, Similar field name q ∧ 3 / 5 ≤ q) ∧
      Text.closest name (settableFields.filter (Text.promising name)) =
        Text.closest name settableFields ∧
      ∀ hint ∈ report.suggestions, ∃ best, Closest name settableFields best ∧
        hint = useInstead name best ∧
        ∀ (s : Nat) (v : Value) (rest : List (String × Value)) (u u' : World) (f : Fault), u.Plain →
          Script.seedOn (.context s) (before ++ (best, v) :: rest) u = .error f u' →
          f ≠ .report (unknownReport best) ∧
          ∀ other, f = .report (unknownReport other) →
            other ∈ rest.map Prod.fst ∧ other ∉ settableFields := by
  refine ⟨unknownReport name, seedStopsUnknown free done unknown, unknownKind name, ?_, ?_,
    Text.closestPromising name settableFields, ?_⟩
  · rw [unknownSuggests, Option.length_toList]
    split <;> omega
  · rw [← Text.closestSome, unknownSuggests]
    cases Text.closest name settableFields <;> simp
  · intro hint mem
    rw [unknownSuggests, Option.mem_toList, Option.map_eq_some_iff] at mem
    obtain ⟨best, found, rfl⟩ := mem
    have closest := Text.closestIs found
    have settable := seedAllNames (seedOnInv done).2.2
    refine ⟨best, closest, rfl, fun s v rest u u' f plain failed => ⟨?_, ?_⟩⟩
    · rintro rfl
      exact (unknownAfter settable closest.candidate plain failed).2 closest.candidate
    · rintro other rfl
      exact unknownAfter settable closest.candidate plain failed

theorem localSuggestsOne :
    let fields := [("context_path", .text "/app"), ("local", .text "fr")]
    Similar "locale" "local" (10 / 11) ∧ ∃ report w₁ best,
      Script.seedOn (.context 0) fields (started {}) = .error (.report report) w₁ ∧
      report.suggestions = [useInstead "local" best] ∧ Closest "local" settableFields best ∧
      ∀ f w', Script.seedOn (.context 0) [("context_path", .text "/app"), (best, .text "fr")]
        (started {}) = .error f w' → ∀ other, f ≠ .report (unknownReport other) := by
  intro fields
  -- all five characters of the name are those of `locale` up to its last
  have five : Text.Matches "locale".toList "local".toList 5 := by
    have block : Text.longestBlock "locale".toList "local".toList = ⟨0, 0, 5⟩ := by
      decide +kernel
    have longest := Text.Block.longestFound "locale".toList "local".toList
    rw [block] at longest
    have before : Text.Matches [] [] 0 := Text.matchesNothing (.inl rfl)
    have after : Text.Matches ['e'] [] 0 := Text.matchesNothing (.inr rfl)
    exact .block longest (by decide) before after
  have similar : Similar "locale" "local" (10 / 11) := by
    refine ⟨5, five, ?_⟩
    have total : "locale".length + "local".length = 11 := by decide
    rw [total]
    norm_num [Text.ratio]
  obtain ⟨w₁, done⟩ : ∃ w₁, Script.seedOn (.context 0) [("context_path", .text "/app")] (started {}) =
      .ok (.context 0) w₁ := ⟨_, rfl⟩
  have unknown : "local" ∉ settableFields := by decide
  have free : Unreserved ([("context_path", .text "/app")] ++ ("local", .text "fr") :: []) := by decide
  have plain : (started {}).Plain := World.emptyPlain
  obtain ⟨report, failed, _, _, one, _, hints⟩ := suggestionIsClosestField free done unknown
  have some : report.suggestions.length = 1 :=
    one.mpr ⟨"locale", by decide, _, similar, by norm_num⟩
  obtain ⟨hint, only⟩ := List.length_eq_one_iff.mp some
  obtain ⟨best, closest, rfl, renamed⟩ := hints hint (only ▸ List.mem_singleton_self _)
  refine ⟨similar, report, w₁, best, failed, only, closest, fun f w' stopped other same => ?_⟩
  have later := ((renamed 0 (.text "fr") [] _ w' f plain stopped).2 other same).1
  contradiction

end FlowDouble.Context
