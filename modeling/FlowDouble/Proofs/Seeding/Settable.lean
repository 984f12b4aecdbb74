import FlowDouble.Proofs.Innocence
import FlowDouble.Proofs.Seeding.Fold
/-! A settable field is never refused as an unknown one, whatever it is set to. So an unknown field is
what a seeding stopped at, if that is what it tells. -/
namespace FlowDouble

open FlowDouble.Action

namespace Action

variable {α : Type} {f : Value → Value → Action Unit}

theorem innocentRefusal {x : Except Fault Report}
    (ends : Concludes Fault.Innocent (fun r => r.diagnosis.kind ≠ .configuration) x) :
    Innocent (refuseWith x : Action α) := by
  cases x with
  | ok r => exact fun _ _ => ends
  | error e => exact fun _ _ => ends

theorem innocentRefuseType (message : String) (key expected value : Value) :
    Innocent (refuseType message key expected value : Action α) := by
  refine innocentBind innocentWorld fun w => innocentRefusal ?_
  have noted : EndsInnocent (Report.expectedNote w expected) := by
    cases expected with
    | null => trivial
    | _ => exact innocentThen (by unfold Report.kindName; split <;> trivial) fun _ => trivial
  refine concludesBind noted fun _ _ => ?_
  exact Kind.noConfusion

theorem innocentForItems [Calls] (source : Value) (each : ∀ k v, Innocent (f k v)) :
    Innocent (source.forItems f) := by
  intro w plain
  rw [forItemsPlain plain]
  by_cases mapping : source.isMapping = true
  · rw [if_pos mapping]
    exact innocentItems each w plain
  · rw [if_neg mapping]
    exact innocentMissing source "items" w plain

end Action

namespace ParameterMap

variable [Calls] (m : ParameterMap) (name value : Value)

theorem innocentReject : Innocent (reject name value : Action Value) :=
  innocentBind (innocentShown name) fun _ => innocentRefuseType _ _ _ _

theorem innocentAccept : Innocent (accept name value) := by
  unfold accept
  split
  · refine innocentBind innocentWorld fun w => ?_
    dsimp only
    split
    · exact innocentBind (innocentModifyGet fun _ => rfl) fun _ => innocentPure _
    · exact innocentReject name _
  · split
    · exact innocentPure _
    · exact innocentReject name _

theorem innocentPut : Innocent (m.put name value) :=
  innocentBind (innocentAccept name value) fun _ =>
    innocentBind (innocentKey name) fun _ => innocentModify fun _ => rfl

theorem innocentCreate (writable : Bool) (source : Value) : Innocent (create writable source) := by
  refine innocentBind (innocentModifyGet fun _ => rfl) fun m => ?_
  refine innocentBind ?_ fun filled => ?_
  · exact innocentBind innocentWorld fun w => innocentExcept (w.truthyInnocent source)
  · cases filled with
    | true => exact innocentBind (innocentForItems source (innocentPut m)) fun _ => innocentPure m
    | false => exact innocentPure m

end ParameterMap

namespace Context

section
variable [Calls] {r : Nat} {w w' : World} {f : Fault}

theorem innocentParameter (name value : Value) : Innocent (putParameter r name value) := by
  intro w plain
  rw [putParameterPlain plain]
  by_cases writable : (w.context r).parameters.writable = true
  · rw [if_pos writable]
    exact ParameterMap.innocentPut _ name value w plain
  · rw [if_neg writable]
    trivial

theorem innocentAsk (name value : Value) : Innocent (askToPut r name value) := by
  intro w plain
  rw [askToPutPlain plain]
  exact innocentParameter name value w plain

theorem innocentSignal (event : Value) : Innocent (askToSignal r event) := by
  intro w plain
  rw [askToSignalPlain plain]
  exact innocentParameter _ event w plain

theorem innocentParametersOf (v : Value) : Innocent (parametersOf v) := by
  unfold parametersOf
  split
  · exact innocentPure _
  · exact ParameterMap.innocentCreate true _

omit [Calls] in
theorem innocentApart (innocent : f.Innocent) (name : String) : f ≠ .report (unknownReport name) := by
  rintro rfl
  exact innocent (unknownKind name)

omit [Calls] in
theorem unknownMessage (name : String) : (unknownReport name).message =
    .text (Kind.context.name ++ " has no settable field '" ++ name ++ "'") := by
  unfold unknownReport
  cases Text.closest name settableFields <;> rfl

omit [Calls] in
theorem unknownInjective {a b : String} (same : unknownReport a = unknownReport b) : a = b := by
  have messages := congrArg Report.message same
  rw [unknownMessage, unknownMessage] at messages
  have texts := congrArg String.toList (Value.text.inj messages)
  simp only [String.toList_append] at texts
  exact String.toList_injective (List.append_cancel_left (List.append_cancel_right texts))

theorem overrideApart (v : Value) (plain : w.Plain) (name : String) :
    overrideFault w v ≠ .report (unknownReport name) := by
  have spelling : EndsInnocent (w.snapshot v).spell := (w.innocentSnapshot plain v).written .spelling
  unfold overrideFault
  cases told : (w.snapshot v).spell with
  | error e => exact innocentApart (endsInnocent spelling told) name
  | ok s =>
    -- the two failures of a configuration begin with different characters
    intro same
    have messages := congrArg Report.message (Fault.report.inj same)
    rw [unknownMessage] at messages
    have first := congrArg (fun s : String => s.toList.head?) (Value.text.inj messages)
    simp [String.toList_append, Kind.name] at first

theorem assignApart {s : Setting} {v : Value} (plain : w.Plain)
    (failed : assign r s v w = .error f w') (name : String) : f ≠ .report (unknownReport name) := by
  rcases assignFailure failed with ⟨_, refused⟩ | ⟨_, refused⟩
  · exact innocentApart ((innocentParametersOf v).failure plain refused) name
  · have other : isOverride v = false := by
      cases v <;> first | rfl | contradiction
    rw [overrideRefused other] at refused
    cases refused
    exact overrideApart v plain name

theorem settableApart {field : String} (known : field ∈ settableFields) {v : Value} (plain : w.Plain)
    (failed : seedField r field v w = .error f w') (name : String) :
    f ≠ .report (unknownReport name) := by
  cases named : Field.named? field with
  | none => exact absurd known (Field.unnamed.mp named)
  | some given =>
    unfold seedField at failed
    rw [named] at failed
    cases given with
    | setting s => exact assignApart plain failed name
    | parameters =>
      have puts := innocentForItems v (innocentAsk (r := r))
      exact innocentApart (puts.failure plain failed) name
    | event => exact innocentApart ((innocentSignal v).failure plain failed) name

end

variable {r : Nat} {w w' : World}

theorem seedOnUnknown {fields : List (String × Value)} {name : String} (plain : w.Plain)
    (failed : Script.seedOn (.context r) fields w = .error (.report (unknownReport name)) w') :
    ∃ before value after w₁, fields = before ++ (name, value) :: after ∧
      Script.seedOn (.context r) before w = .ok (.context r) w₁ ∧ name ∉ settableFields := by
  have free : Unreserved fields := by
    refine Decidable.byContradiction fun reserved => ?_
    have refused : Script.seedOn (.context r) fields w = _ := bindError (seedReserved reserved w)
    rw [refused] at failed
    nomatch (EStateM.Result.error.inj failed).1
  obtain ⟨before, field, value, after, w₁, rfl, done, offending⟩ :=
    seedAllFails ((seedOnFails free).mp failed)
  have left : Unreserved before := fun x mem => free x (List.mem_append_left _ mem)
  have unknown : field ∉ settableFields := fun known =>
    settableApart known (seedAllPlain left plain done) offending name rfl
  rw [seedUnknown unknown] at offending
  have same : field = name :=
    unknownInjective (Fault.report.inj (EStateM.Result.error.inj offending).1)
  rw [← same]
  exact ⟨before, value, after, w₁, rfl, (seedOnOk left).mpr ⟨rfl, done⟩, unknown⟩

end Context

end FlowDouble
