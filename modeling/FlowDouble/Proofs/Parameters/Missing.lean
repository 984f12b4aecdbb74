import FlowDouble.Proofs.Parameters.Readers
import FlowDouble.Proofs.Text.Quotes
/-! A missing parameter is reported under its name, with the call that would put it there as a hint.
The name stands in that call as a literal, so it can be read back from the hint. -/
namespace FlowDouble

open FlowDouble.Action

namespace Report

def noted (name s : String) : Entries := if s.isEmpty then [] else [(.text name, .text s)]

theorem noteOfText (w : World) (name s : String) : noteOf w name (.text s) = .ok (noted name s) := by
  have told : w.truthy (.text s) = .ok (!s.isEmpty) := rfl
  unfold noteOf noted
  rw [told]
  cases s.isEmpty <;> rfl

def missing (message : Value) (s : String) (metadata : Entries) : Report where
  diagnosis := .attributeNotFound (.text s)
  message
  metadata := (.text "key", .text s) :: metadata
  debug := noted "missing_key" s

theorem missingMade (w : World) (message : Value) (s : String) (metadata : Entries) :
    attributeNotFound w message (.text s) metadata = .ok (missing message s metadata) := by
  unfold attributeNotFound
  rw [noteOfText]
  rfl

end Report

theorem Action.refusedMissing {α : Type} (message : String) (s : String) (metadata : Entries)
    (w : World) :
    (refuseMissing message (.text s) metadata : Action α) w =
      .error (.report (.missing (.text message) s metadata)) w := by
  unfold refuseMissing
  rw [worldBind, Report.missingMade]
  rfl

def Fault.suggestions : Fault → List Value
  | .report r => r.suggestions
  | _ => []

namespace ParameterMap

def hintWith (literal : String) : Value :=
  .text ("Seed it with put_request_parameter(" ++ literal ++ ", ...)")

theorem hintInjective {a b : String} (same : hintWith a = hintWith b) : a = b := by
  have texts := congrArg String.toList (Value.text.inj same)
  simp only [String.toList_append, List.append_assoc] at texts
  have inner := List.append_cancel_right (List.append_cancel_left texts)
  exact String.toList_injective inner

def missingParameter (s : String) : Report :=
  let message := "Required request parameter '" ++ s ++ "' is not present"
  (Report.missing (.text message) s []).suggest (hintWith (Text.quote s))

def missingUpload (s : String) : Report :=
  .missing (.text ("Required multipart file '" ++ s ++ "' is not present")) s []

section
variable [Calls] {m : ParameterMap} {w : World}

theorem requiredEnds (plain : w.Plain) (m : ParameterMap) (s : String) :
    m.getRequired (.text s) w = .error (.report (missingParameter s)) w ∨
      ∃ v, m.getRequired (.text s) w = .ok v w := by
  have asked : m.askFor (.text s) w = .ok ((m.valuesUnder (.text s) w).headD .null) w :=
    askForHead plain rfl
  unfold getRequired
  rw [bindOk asked]
  cases ((m.valuesUnder (.text s) w).headD .null).isNull with
  | false => exact .inr ⟨_, rfl⟩
  | true =>
    refine .inl ((bindOk (shownText s w)).trans ?_)
    rw [worldBind, Report.missingMade]
    rfl

theorem requiredUploadEnds (plain : w.Plain) (m : ParameterMap) (s : String) :
    m.getRequiredUpload (.text s) w = .error (.report (missingUpload s)) w ∨
      (∃ v, m.getRequiredUpload (.text s) w = .ok v w) ∨
      Reports (.attributeType (.text s) (.kind .upload)) (m.getRequiredUpload (.text s)) w := by
  have asked : m.askFor (.text s) w = .ok ((m.valuesUnder (.text s) w).headD .null) w :=
    askForHead plain rfl
  have own : (Value.parameters m).answer "get_multipart_file" ⟨[.text s], []⟩
      (m.getUpload (.text s)) w = m.getUpload (.text s) w :=
    Value.answerUnhidden (plain _ _ (by decide)) _ _
  generalize (m.valuesUnder (.text s) w).headD .null = v at asked
  by_cases fits : (v.isNull || v.isUpload) = true
  · have got : m.getUpload (.text s) w = .ok v w := by
      unfold getUpload
      rw [bindOk asked, if_pos fits]
      rfl
    unfold getRequiredUpload
    rw [bindOk (own.trans got)]
    cases v.isNull with
    | false => exact .inr (.inl ⟨v, rfl⟩)
    | true => exact .inl ((bindOk (shownText s w)).trans (refusedMissing _ s [] w))
  · have refused : Reports (.attributeType (.text s) (.kind .upload)) (m.getUpload (.text s)) w := by
      refine reportsAfter asked ?_
      rw [if_neg fits]
      exact reportsAfter (shownText s w) (typeReported _ _ _ _ w)
    obtain ⟨r, failed, about⟩ := refused
    exact .inr (.inr (reportsThrough ⟨r, own.trans failed, about⟩))

end

theorem performGetRequired (m : ParameterMap) (name : Value) :
    (Value.parameters m).perform "get_required" ⟨[name], []⟩ = m.getRequired name := by
  obtain ⟨writable, ref⟩ := m
  cases writable <;> rfl

def Lacks (m : ParameterMap) (s : String) (w : World) (f : Fault) : Prop :=
  ∃ w', (Value.parameters m).perform "get_required" ⟨[.text s], []⟩ w = .error f w' ∧
    f.kind = .attributeNotFound

variable {m : ParameterMap} {w : World} {s : String} {f : Fault}

theorem lacksTold (plain : w.Plain) (lacks : m.Lacks s w f) : f = .report (missingParameter s) := by
  obtain ⟨w', failed, _⟩ := lacks
  rw [performGetRequired] at failed
  rcases requiredEnds plain m s with told | ⟨v, got⟩
  · rw [told] at failed
    cases failed
    rfl
  · rw [got] at failed
    contradiction

theorem lacksUnheld (plain : w.Plain) (none : m.valuesUnder (.text s) w = []) :
    m.Lacks s w (.report (missingParameter s)) := by
  obtain ⟨r, failed, about⟩ := (readsNone plain (Value.textTellable s) none).required
  have lacks : m.Lacks s w (.report r) :=
    ⟨w, (congrFun (performGetRequired m _) w).trans failed, congrArg Diagnosis.kind about⟩
  have told := lacksTold plain lacks
  rwa [told] at lacks

/-- The hint of a missing parameter is one line, from which the name is read back as a literal
whatever its characters are. Maps that lack different names give different hints. -/
theorem missingNameReadBack (plain : w.Plain) (lacks : m.Lacks s w f) :
    (∃ r literal, f = .report r ∧ r.suggestions = [hintWith literal] ∧
      Text.readLiteral literal.toList = some s.toList ∧ '\n' ∉ literal.toList) ∧
    ∀ (n : ParameterMap) (t : String) (w' : World) (g : Fault), w'.Plain → n.Lacks t w' g → s ≠ t →
      g.suggestions ≠ f.suggestions := by
  obtain rfl := lacksTold plain lacks
  refine ⟨⟨_, Text.quote s, rfl, rfl, Text.quoteRead s, Text.quoteInLine s⟩, ?_⟩
  intro n t w' g plain' lacks' different same
  obtain rfl := lacksTold plain' lacks'
  have hints : hintWith (Text.quote t) = hintWith (Text.quote s) := (List.cons.inj same).1
  exact different (Text.quoteInjective (hintInjective hints)).symm

theorem oddNamesReadBack :
    let odd := "'\x22\\\n\x01\u2028\u00e9"
    ∃ w₀ m w₁ f g, create false (.dictionary 0) w₀ = .ok m w₁ ∧
      m.Lacks odd w₁ f ∧ m.Lacks "" w₁ g ∧ g.suggestions ≠ f.suggestions ∧
      ∃ r literal, f = .report r ∧ r.suggestions = [hintWith literal] ∧
        Text.readLiteral literal.toList = some odd.toList := by
  intro odd
  let w₀ : World := { dictionaries := [[(.text "x", .text "1")]] }
  obtain ⟨m, w₁, made⟩ : ∃ m w₁, create false (.dictionary 0) w₀ = .ok m w₁ := ⟨_, _, rfl⟩
  have plain : w₁.Plain := by
    cases made
    exact fun _ _ _ => rfl
  have lacksOdd : m.Lacks odd w₁ (.report (missingParameter odd)) := by
    cases made
    exact lacksUnheld plain rfl
  have lacksEmpty : m.Lacks "" w₁ (.report (missingParameter "")) := by
    cases made
    exact lacksUnheld plain rfl
  obtain ⟨⟨r, literal, told, hints, read, _⟩, apart⟩ := missingNameReadBack plain lacksOdd
  exact ⟨w₀, m, w₁, _, _, made, lacksOdd, lacksEmpty,
    apart m "" w₁ _ plain lacksEmpty (by decide), r, literal, told, hints, read⟩

end ParameterMap

end FlowDouble
