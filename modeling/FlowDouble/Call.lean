import FlowDouble.World
/-! Calls. What a value answers when it is called stays open here, since any value can be put on
another under any name. An operation that nothing hides answers for itself. What a context answers about
its response can be hidden too, also from the context itself. -/
namespace FlowDouble

open FlowDouble.Action

structure Arguments where
  placed : List Value
  named : List (String × Value)
  deriving Repr, Inhabited

class Calls where
  apply : Value → Arguments → Action Value

/-- Asks a value for an operation by its name. A member of that name put on the value hides the
operation and is called in its place. -/
def Value.answer [Calls] (v : Value) (name : String) (a : Arguments) (own : Action Value) :
    Action Value := do
  match (← world).attachment? v name with
  | some x => Calls.apply x a
  | none => own

theorem Value.answerUnhidden [Calls] {v : Value} {name : String} {w : World}
    (unhidden : w.attachment? v name = none) (a : Arguments) (own : Action Value) :
    v.answer name a own w = own w := by
  unfold answer
  show (match w.attachment? v name with | some x => Calls.apply x a | none => own) w = own w
  rw [unhidden]

namespace Context

variable [Calls]

def isResponseAllowed (r : Nat) : Action Value :=
  (Value.context r).answer "is_response_allowed" ⟨[], []⟩ do
    return .bool ((← world).context r).responseAllowed

def isResponseComplete (r : Nat) : Action Value :=
  (Value.context r).answer "is_response_complete" ⟨[], []⟩ do
    return .bool ((← world).context r).complete

def isRedirectRequested (r : Nat) : Action Value :=
  (Value.context r).answer "is_redirect_requested" ⟨[], []⟩ do
    return .bool ((← world).context r).redirectRequested

end Context

end FlowDouble
