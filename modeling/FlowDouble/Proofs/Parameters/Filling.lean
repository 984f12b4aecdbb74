import FlowDouble.Context.Response
import FlowDouble.Proofs.Effects
/-! Filling parameter maps touches nothing else: neither the lists and dictionaries the entries come
from nor any context. -/
namespace FlowDouble

open FlowDouble.Action

def OnlyParameters (w w' : World) : Prop :=
  w' = { w with parameterMaps := w'.parameterMaps, tags := w'.tags }

theorem onlyParameters : Effect OnlyParameters where
  refl _ := rfl
  trans {a b c} ab bc := by
    unfold OnlyParameters at *
    rw [ab] at bc
    exact bc
  attachments {a b} ab := by rw [ab]

namespace Action

variable [Calls]

theorem readsShown (v : Value) : Within Unchanged (shown v) :=
  withinBind unchanged (withinWorld unchanged) fun _ => withinOfExcept unchanged _

theorem readsSpelled (v : Value) : Within Unchanged (spelled v) :=
  withinBind unchanged (withinWorld unchanged) fun _ => withinOfExcept unchanged _

omit [Calls] in
theorem refusesWith {α : Type} (r : Except Fault Report) : Refuses (refuseWith r : Action α) :=
  refusesBind (ofExceptStays r) fun _ => refusesThrow _

omit [Calls] in
theorem refusesType {α : Type} (message : String) (key expected value : Value) :
    Refuses (refuseType message key expected value : Action α) :=
  fun w => refusesWith (α := α) _ w

omit [Calls] in
theorem readsRefusal {α : Type} (r : Except Fault Report) :
    Within Unchanged (refuseWith r : Action α) :=
  withinBind unchanged (withinOfExcept unchanged r) fun _ => withinThrow unchanged _

omit [Calls] in
theorem readsRefuseType {α : Type} (message : String) (key expected value : Value) :
    Within Unchanged (refuseType message key expected value : Action α) :=
  withinBind unchanged (withinWorld unchanged) fun _ => readsRefusal _

end Action

namespace ParameterMap

variable [Calls]

theorem readsReject {α : Type} (name value : Value) :
    Within Unchanged (reject name value : Action α) :=
  withinBind unchanged (readsShown name) fun _ => readsRefuseType _ _ _ _

theorem refusesReject {α : Type} (name value : Value) :
    Refuses (reject name value : Action α) :=
  refusesBind (fun _ => ofExceptStays _ _) fun _ => refusesType _ _ _ _

theorem acceptFills (name value : Value) : Within OnlyParameters (accept name value) := by
  have rejected : Within OnlyParameters (reject name value : Action Value) :=
    withinUnchanged onlyParameters (readsReject name value)
  unfold accept
  split
  · refine withinBind onlyParameters (withinWorld onlyParameters) fun w => ?_
    refine withinIte _ ?_ rejected
    exact withinBind onlyParameters (withinModifyGet fun _ => rfl)
      fun _ => withinPure onlyParameters _
  · exact withinIte _ (withinPure onlyParameters _) rejected

theorem putFills (m : ParameterMap) (name value : Value) :
    Within OnlyParameters (m.put name value) := by
  refine withinBind onlyParameters (acceptFills name value) fun v => ?_
  refine withinBind onlyParameters (withinUnchanged onlyParameters (readsKey name)) fun _ => ?_
  exact withinModify fun _ => rfl

theorem askToPutFills (m : ParameterMap) (name value : Value) :
    Within OnlyParameters (m.askToPut name value) := by
  refine withinBind onlyParameters ?_ fun _ => withinPure onlyParameters _
  refine withinAnswer (by decide) ?_
  exact withinBind onlyParameters (putFills m name value) fun _ => withinPure onlyParameters _

theorem createFills (writable : Bool) (source : Value) :
    Within OnlyParameters (create writable source) := by
  refine withinBind onlyParameters (withinModifyGet fun _ => rfl) fun m => ?_
  refine withinBind onlyParameters (withinUnchanged onlyParameters (readsTruthy source))
    fun full => ?_
  split
  · exact withinBind onlyParameters (withinForItems onlyParameters source (putFills m))
      fun _ => withinPure onlyParameters _
  · exact withinPure onlyParameters _

end ParameterMap

namespace Context

variable [Calls]

theorem parametersOfFills (v : Value) : Within OnlyParameters (parametersOf v) := by
  unfold parametersOf
  split
  · exact withinPure onlyParameters _
  · exact ParameterMap.createFills true _

omit [Calls] in
theorem readsWritable (r : Nat) : Within Unchanged (writableParameters r) := by
  refine withinBind unchanged (withinWorld unchanged) fun w => ?_
  exact withinIte _ (withinPure unchanged _) (withinThrow unchanged _)

theorem putParameterFills (r : Nat) (name value : Value) :
    Within OnlyParameters (putParameter r name value) :=
  withinBind onlyParameters (withinUnchanged onlyParameters (readsWritable r))
    fun m => m.askToPutFills name value

theorem askToPutFills (r : Nat) (name value : Value) :
    Within OnlyParameters (askToPut r name value) := by
  refine withinBind onlyParameters ?_ fun _ => withinPure onlyParameters _
  refine withinAnswer (by decide) ?_
  exact withinBind onlyParameters (putParameterFills r name value)
    fun _ => withinPure onlyParameters _

theorem setEventFills (r : Nat) (event : Value) : Within OnlyParameters (setEvent r event) :=
  askToPutFills r _ event

theorem askToSignalFills (r : Nat) (event : Value) :
    Within OnlyParameters (askToSignal r event) := by
  refine withinBind onlyParameters ?_ fun _ => withinPure onlyParameters _
  refine withinAnswer (by decide) ?_
  exact withinBind onlyParameters (setEventFills r event) fun _ => withinPure onlyParameters _

end Context

end FlowDouble
