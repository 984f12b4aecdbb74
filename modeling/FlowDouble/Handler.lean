import FlowDouble.Value
/-! Handlers of a flow, and handlers decorated with fields to seed a context from. The samples
here cover every way a handler uses its context. -/
namespace FlowDouble

inductive Task where
  | echo | state | url | redirect | write | page | remember | fail | bare
  deriving DecidableEq, Repr, Inhabited

def Task.name : Task → String
  | echo => "echo"
  | state => "state"
  | url => "url"
  | redirect => "redirect"
  | write => "write"
  | page => "page"
  | remember => "remember"
  | fail => "boom"
  | bare => "bare"

structure Handler where
  task : Task
  awaited : Bool
  deriving DecidableEq, Repr, Inhabited

namespace Handler

def name (h : Handler) : String := (if h.awaited then "a_" else "") ++ h.task.name

def all : List Handler :=
  [⟨.echo, false⟩, ⟨.state, false⟩, ⟨.url, false⟩, ⟨.redirect, false⟩, ⟨.write, false⟩,
   ⟨.page, false⟩, ⟨.remember, false⟩, ⟨.fail, false⟩, ⟨.bare, false⟩,
   ⟨.echo, true⟩, ⟨.state, true⟩, ⟨.url, true⟩, ⟨.fail, true⟩]

def named? (s : String) : Option Handler := all.find? (·.name == s)

def doc : Handler → Option String
  | ⟨.echo, false⟩ => some "Echo."
  | ⟨.url, true⟩ => some "Async url."
  | _ => none

end Handler

structure Decorated where
  handler : Handler
  layers : List (List (String × Value))
  deriving Repr, Inhabited

def Decorated.wrap (d : Decorated) (fields : List (String × Value)) : Decorated :=
  { d with layers := fields :: d.layers }

end FlowDouble
