import FlowDouble.Invocation
import FlowDouble.Proofs.Reports.History
import FlowDouble.Proofs.Reports.Sections
/-! The text of a failure that explains itself is unambiguous: as long as no part breaks a line and no
name ends early, failures of one text have all parts in common, whatever their histories. -/
namespace FlowDouble

open Sections (linesOf headings headed contextTitle debugTitle suggestionsTitle)

section
variable [Calls] {k k' : Kind} {r r' : Nat} {told told' : Report} {w w' : World}
  {hints hints' : List String} {notes notes' : List (String × Value)}
  {lists lists' tables tables' : List Nat} {s s' : Sections}

theorem explainsShown (history : Explains k r told w hints notes lists tables)
    (tells : w.Tells k told.message told.metadata (namedEntries (gathered notes)) (hints.map .text) s) :
    Action.shown (.error k r) w = .ok s.render w := by
  obtain ⟨d, keeps⟩ := explainsKeeps history
  obtain ⟨arguments, held⟩ := keeps.holds.held
  have metadata : w.dictionary d = told.metadata := keeps.holds.metadata
  have texts : ∀ v ∈ (told.grown hints notes).suggestions, ∃ s, v = .text s := by
    intro v mem
    obtain ⟨hint, _, rfl⟩ := List.mem_map.mp mem
    exact ⟨hint, rfl⟩
  have tells : w.Tells told.diagnosis.kind told.message (w.dictionary d) (namedEntries (gathered notes))
      (hints.map .text) s := by
    rw [keeps.kind, metadata]
    exact tells
  have shown : (w.snapshot (.error k r)).display = .ok s.render :=
    (failureShown held keeps.deep ⟨_, tells.message⟩ (metadata ▸ keeps.metadata)
      (Report.namedKeys _) texts).mpr ⟨s, rfl, tells⟩
  have run : Action.shown (.error k r) w =
      (ofExcept (w.snapshot (.error k r)).display : Action String) w := rfl
  rw [run, shown]
  rfl

theorem toldNamed {message : Value} {metadata debug : Entries} {suggestions : List Value}
    (tells : w.Tells k message metadata debug suggestions s) : Sections.PlainKey s.kind := by
  rw [tells.kind]
  exact Sections.kindNamePlain k

/-- Failures of one text agree on their kind, their message, their metadata as far as there is a value,
what was noted last under each name in the order in which the names were first noted, and their hints in
the order in which they were given. Of the headings there are those of the sections that have any parts,
in their order. -/
theorem failuresToldByTheirText (history : Explains k r told w hints notes lists tables)
    (history' : Explains k' r' told' w' hints' notes' lists' tables')
    (tells : w.Tells k told.message told.metadata (namedEntries (gathered notes)) (hints.map .text) s)
    (tells' : w'.Tells k' told'.message told'.metadata (namedEntries (gathered notes'))
      (hints'.map .text) s')
    (plain : s.Plain) (plain' : s'.Plain) :
    Action.shown (.error k r) w = .ok s.render w ∧
      Action.shown (.error k' r') w' = .ok s'.render w' ∧
      (s.render = s'.render → s = s') ∧
      (linesOf s.render).filter (· ∈ headings) =
        headed contextTitle s.context ++ headed debugTitle s.debug ++
          headed suggestionsTitle s.suggestions :=
  ⟨explainsShown history tells, explainsShown history' tells',
    Sections.renderInjective (toldNamed tells) plain (toldNamed tells') plain',
    Sections.headingsRead (toldNamed tells) plain⟩

end

theorem noteToldFromHint :
    let noted : Sections := ⟨"FlowTestError", "x", [("flow", "booking")], [("→ y", "z")], []⟩
    let hinted : Sections := ⟨"FlowTestError", "x", [("flow", "booking")], [], ["y: z"]⟩
    Sections.entryLine ("→ y", "z") = Sections.suggestionLine "y: z" ∧ ∃ w w' : World,
      Action.shown (.error .flowError 0) w = .ok noted.render w ∧
      Action.shown (.error .flowError 0) w' = .ok hinted.render w' ∧ noted.render ≠ hinted.render ∧
      (linesOf noted.render).filter (· ∈ headings) = [contextTitle, debugTitle] := by
  intro noted hinted
  let metadata : List (String × Value) := [("flow", .text "booking"), ("step", .null)]
  obtain ⟨w, arguments, made, held⟩ : ∃ w arguments,
      Kind.make .flowError ⟨[.text "x"], metadata⟩ {} = .ok (.error .flowError 0) w ∧
      w.error 0 = .report (.general (.text "x") (namedEntries metadata)) (.dictionary 0) arguments :=
    ⟨_, _, rfl, rfl⟩
  have start : Explains .flowError 0 _ w [] [] [] [] := .made rfl (by decide) made held rfl rfl
  obtain ⟨_, w₁, done⟩ : ∃ x w₁, (Value.error .flowError 0).perform "add_debug_info"
      ⟨[.text "→ y", .text "z"], []⟩ w = .ok x w₁ := ⟨_, _, rfl⟩
  obtain ⟨t, w₂, out⟩ : ∃ t w₂, (Value.error .flowError 0).getMember "debug_info" w₁ =
      .ok (.dictionary t) w₂ := by
    obtain ⟨_, keeps⟩ := explainsKeeps (.noted start done)
    exact ⟨_, _, keeps.holds.handsOut (by decide) rfl⟩
  obtain ⟨_, w₃, done'⟩ : ∃ x w₃, (Value.error .flowError 0).perform "add_suggestion"
      ⟨[.text "y: z"], []⟩ w = .ok x w₃ := ⟨_, _, rfl⟩
  have note := Explains.tableChanged (.tabled (.noted start done) out) (List.mem_singleton_self t) []
  have hint := Explains.hinted start done'
  have present : (namedEntries metadata).filter (fun e => !e.2.isNull) =
      [(.text "flow", .text "booking")] := rfl
  have context (w : World) : List.Forall₂ (w.Reads 1)
      ((namedEntries metadata).filter fun e => !e.2.isNull) [("flow", "booking")] :=
    present ▸ .cons ⟨rfl, textHeld w 1 "booking"⟩ .nil
  have once : gathered [("→ y", .text "z")] = [("→ y", .text "z")] :=
    gatheredDistinct (List.pairwise_singleton _ _)
  have tells : (w₂.setDictionary t []).Tells .flowError (.text "x") (namedEntries metadata)
      (namedEntries (gathered [("→ y", .text "z")])) [] noted :=
    ⟨rfl, rfl, context _, once ▸ .cons ⟨rfl, textHeld _ 0 "z"⟩ .nil, rfl⟩
  have tells' : w₃.Tells .flowError (.text "x") (namedEntries metadata) [] [.text "y: z"] hinted :=
    ⟨rfl, rfl, context _, .nil, rfl⟩
  have flow : ∀ e ∈ [("flow", "booking")], Sections.PlainKey e.1 ∧ Sections.OneLine e.2 :=
    List.forall_mem_singleton.mpr ⟨⟨by decide, by decide⟩, by decide⟩
  have plain : noted.Plain := ⟨by decide, flow,
    List.forall_mem_singleton.mpr ⟨⟨by decide, by decide⟩, by decide⟩, List.forall_mem_nil _⟩
  have plain' : hinted.Plain := ⟨by decide, flow, List.forall_mem_nil _,
    List.forall_mem_singleton.mpr (by decide)⟩
  obtain ⟨shown, shown', same, told⟩ := failuresToldByTheirText note hint tells tells' plain plain'
  exact ⟨by decide, _, _, shown, shown', fun text => absurd (same text) (by decide), told⟩

end FlowDouble
