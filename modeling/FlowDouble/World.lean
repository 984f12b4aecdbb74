import FlowDouble.Context
import FlowDouble.Fault
import FlowDouble.Handler
import FlowDouble.Heap
/-! The store: one heap for each kind of thing that can change, a supply of tags, and the
trail. -/
namespace FlowDouble

structure Stream where
  content : List UInt8
  position : Nat
  deriving DecidableEq, Repr, Inhabited

inductive Raised where
  | report (r : Report) (metadata arguments : Value)
  | plain (kind : Kind) (arguments : Value)
  deriving Repr, Inhabited

structure Attachment where
  owner : Value
  name : String
  value : Value
  deriving Repr

/-- Of two attachments of one name the newer one comes first. References are followed a fixed way
where a value is written out. -/
structure World where
  lists : Heap (List Value) := []
  dictionaries : Heap Entries := []
  parameterMaps : Heap Entries := []
  contexts : Heap Context := []
  writers : Heap (List String) := []
  streams : Heap Stream := []
  errors : Heap Raised := []
  functions : Heap Decorated := []
  attachments : List Attachment := []
  tags : Nat := 0
  trail : List Record := []
  reach : Nat := 1000
  deriving Repr, Inhabited

abbrev Action := EStateM Fault World

namespace World

def list (w : World) (r : Nat) : List Value := w.lists.read r

def dictionary (w : World) (r : Nat) : Entries := w.dictionaries.read r

def parameters (w : World) (m : ParameterMap) : Entries := w.parameterMaps.read m.ref

def context (w : World) (r : Nat) : Context := w.contexts.read r

def written (w : World) (r : Nat) : List String := w.writers.read r

def stream (w : World) (r : Nat) : Stream := w.streams.read r

def error (w : World) (r : Nat) : Raised := w.errors.read r

def function (w : World) (r : Nat) : Decorated := w.functions.read r

def setList (w : World) (r : Nat) (xs : List Value) : World :=
  { w with lists := w.lists.write r xs }

def setDictionary (w : World) (r : Nat) (es : Entries) : World :=
  { w with dictionaries := w.dictionaries.write r es }

def setParameters (w : World) (m : ParameterMap) (es : Entries) : World :=
  { w with parameterMaps := w.parameterMaps.write m.ref es }

def setContext (w : World) (r : Nat) (c : Context) : World :=
  { w with contexts := w.contexts.write r c }

def setWritten (w : World) (r : Nat) (texts : List String) : World :=
  { w with writers := w.writers.write r texts }

def setStream (w : World) (r : Nat) (s : Stream) : World :=
  { w with streams := w.streams.write r s }

def setError (w : World) (r : Nat) (e : Raised) : World := { w with errors := w.errors.write r e }

def attachment? (w : World) (owner : Value) (name : String) : Option Value :=
  (w.attachments.find? fun a => a.owner.same owner && a.name == name).map (·.value)

def attached (w : World) (owner : Value) : List (String × Value) :=
  (w.attachments.reverse.filter (·.owner.same owner)).map fun a => (a.name, a.value)

def attach (w : World) (owner : Value) (name : String) (value : Value) : World :=
  { w with attachments := ⟨owner, name, value⟩ :: w.attachments }

end World

namespace Action

def world : Action World := get

def newTag : Action Nat := modifyGet fun w => (w.tags, { w with tags := w.tags + 1 })

def newList (xs : List Value) : Action Value :=
  modifyGet fun w => (.list w.lists.length, { w with lists := w.lists.push xs })

def newDictionary (es : Entries) : Action Value :=
  modifyGet fun w =>
    (.dictionary w.dictionaries.length, { w with dictionaries := w.dictionaries.push es })

def newParameters (writable : Bool) (es : Entries) : Action ParameterMap :=
  modifyGet fun w =>
    (⟨writable, w.parameterMaps.length⟩, { w with parameterMaps := w.parameterMaps.push es })

def newContext (c : Context) : Action Nat :=
  modifyGet fun w => (w.contexts.length, { w with contexts := w.contexts.push c })

def newWriter : Action Nat :=
  modifyGet fun w => (w.writers.length, { w with writers := w.writers.push [] })

def newStream (content : List UInt8) : Action Value :=
  modifyGet fun w => (.stream w.streams.length, { w with streams := w.streams.push ⟨content, 0⟩ })

def newTuple (xs : List Value) : Action Value := do return .tuple (← newTag) xs

def newToken : Action Value := do return .token (← newTag)

def newPending : Action Value := do return .pending (← newTag)

def newFunction (d : Decorated) : Action Value :=
  modifyGet fun w => (.function w.functions.length, { w with functions := w.functions.push d })

def newAttributes (shared : Bool) (backing : Value) : Action Value := do
  let backing ← if backing.isNull then newDictionary [] else pure backing
  return .attributes (← newTag) shared backing

def attach (owner : Value) (name : String) (value : Value) : Action Unit :=
  modify fun w => w.attach owner name value

def attachAll (owner : Value) : List (String × Value) → Action Unit
  | [] => return ()
  | (name, v) :: rest => do
    attach owner name v
    attachAll owner rest

def misuse {α : Type} (m : Misuse) : Action α := throw (.misuse m)

def record (r : Record) : Action Unit := modify fun w => { w with trail := w.trail ++ [r] }

def yieldNothing (a : Action Unit) : Action Value := do a; return .null

end Action

end FlowDouble
