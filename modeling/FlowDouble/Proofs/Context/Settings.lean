import FlowDouble.Proofs.Context.Guard
import FlowDouble.Seeding
/-! Assigning settings, seeding, putting parameters and reading change settings, parameter maps and
tags, nothing else. What does not look at those holds of all of these operations at once. -/
namespace FlowDouble

open FlowDouble.Action

structure Requests where
  writer : Nat
  complete : Bool
  executionRedirect : Bool
  redirectFlow : Value
  redirectInput : Value
  externalUrl : Value
  popup : Bool

def Context.requests (c : Context) : Requests :=
  ⟨c.writer, c.complete, c.executionRedirect, c.redirectFlow, c.redirectInput, c.externalUrl, c.popup⟩

structure Settling (r : Nat) (R : World → World → Prop) : Prop where
  effect : Effect R
  filling : ∀ {w w'}, OnlyParameters w w' → R w w'
  changing : ∀ {w} {c : Context}, c.requests = (w.context r).requests → R w (w.setContext r c)

namespace Context

def Operation.settles : Operation → Bool
  | .recordComplete | .redirectExecution | .redirectDefinition .. | .redirectExternal _
  | .popUp => false
  | _ => true

variable [Calls] {r : Nat} {R : World → World → Prop} (settling : Settling r R)
include settling

omit [Calls] in
theorem changeWithin {change : Context → Context} (kept : ∀ c, (change c).requests = c.requests) :
    Within R (Context.change r change) := withinModify fun _ => settling.changing (kept _)

theorem assignWithin (s : Setting) (v : Value) : Within R (assign r s v) := by
  have filling {α : Type} {a : Action α} (h : Within OnlyParameters a) : Within R a :=
    withinMono settling.filling h
  unfold assign
  cases s with
  | requestParameters =>
    exact withinBind settling.effect (filling (parametersOfFills v))
      fun _ => changeWithin settling fun _ => rfl
  | currentUser =>
    refine withinBind settling.effect (filling ?_) fun _ => changeWithin settling fun _ => rfl
    unfold principalOf
    split
    · exact withinBind onlyParameters (withinModifyGet fun _ => rfl)
        fun _ => withinPure onlyParameters _
    · exact withinPure onlyParameters _
  | responseAllowed =>
    exact withinBind settling.effect (withinUnchanged settling.effect (readsOverride v))
      fun _ => changeWithin settling fun _ => rfl
  | _ => exact changeWithin settling fun _ => rfl

theorem seedWithin (fields : List (String × Value)) : Within R (seed r fields) := by
  have effect := settling.effect
  have field (name : String) (value : Value) : Within R (seedField r name value) := by
    unfold seedField
    split
    · exact assignWithin settling _ value
    · exact withinMono settling.filling (withinForItems onlyParameters value (askToPutFills r))
    · exact withinMono settling.filling (askToSignalFills r value)
    · refine withinUnchanged effect ?_
      exact withinBind unchanged (withinWorld unchanged) fun _ => readsRefusal _
  have all : Within R (seedAll r fields) := by
    induction fields with
    | nil => exact withinPure effect ()
    | cons f rest ih => exact withinBind effect (field f.1 f.2) fun _ => ih
  refine withinBind effect ?_ fun _ => all
  exact withinIte _ (withinThrow effect _) (withinPure effect _)

theorem settlesWithin {op : Operation} (settles : op.settles = true) :
    Within R (perform r op) := by
  have effect := settling.effect
  have yielding {a : Action Unit} (h : Within R a) : Within R (yieldNothing a) :=
    withinBind effect h fun _ => withinPure effect _
  cases reads : op.reads with
  | true => exact withinUnchanged effect (performReads reads)
  | false =>
    cases op with
    | assign s v => exact yielding (assignWithin settling s v)
    | putParameter name value =>
      exact yielding (withinMono settling.filling (putParameterFills r name value))
    | setEvent event => exact yielding (withinMono settling.filling (setEventFills r event))
    | _ => contradiction

end Context

end FlowDouble
