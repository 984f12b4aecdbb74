import FlowDouble.Content
/-! Going through what values yield. Only streams notice: a line taken from one is behind its
position from then on. -/
namespace FlowDouble

/-- A part as it is when its turn comes. A view goes by the entries of its map at that time, as long
as there are as many as at first. -/
def World.partNow (w : World) (source : Value) (total index : Nat) (part : Value) :
    Except Fault Value :=
  match source.root with
  | .facet .. =>
    let parts := (w.elements? source).getD []
    if parts.length = total then .ok (parts[index]?.getD part)
    else .error (.told .wrongState "dictionary changed size during iteration")
  | _ => .ok part

namespace Action

def take (source part : Value) : Action Unit :=
  match source.root, part with
  | .stream r, .bytes line =>
    modify fun w =>
      let s := w.stream r
      w.setStream r { s with position := s.position + line.length }
  | _, _ => return ()

def takeAll (source : Value) : List Value → Action Unit
  | [] => return ()
  | v :: vs => do
    take source v
    takeAll source vs

def visit (source : Value) (f : Nat → Value → Action Unit) (total index : Nat) :
    List Value → Action Unit
  | [] => do let _ ← ofExcept ((← world).partNow source total index .null)
  | v :: vs => do
    let v ← ofExcept ((← world).partNow source total index v)
    take source v
    f index v
    visit source f total (index + 1) vs

def ahead (v : Value) : Action (List Value) := do
  match (← world).elements? v with
  | some vs => return vs
  | none => misuse (.notIterable v.root.kindOf)

def visitAll (source : Value) (f : Nat → Value → Action Unit) : Action Unit := do
  let parts ← ahead source
  visit source f parts.length 0 parts

def elements (v : Value) : Action (List Value) := do
  let vs ← ahead v
  takeAll v vs
  return vs

def requireHashable (key : Value) : Action Unit := ofExcept key.checkKey

def truthy (v : Value) : Action Bool := do ofExcept ((← world).truthy v)

def length (v : Value) : Action Nat := do ofExcept ((← world).length v)

def finish {α : Type} (y : Yield α) : Action Unit :=
  match y.fault with
  | some f => throw f
  | none => return ()

def missing {α : Type} (v : Value) (name : String) : Action α :=
  match v with
  | .kind k => misuse (.ofKind k name)
  | v => misuse (.noMember v name)

def entriesAs (name : String) (v : Value) : Action (Yield (Value × Value)) := do
  if v.isMapping then return (← world).items v else missing v name

def entries (name : String) (v : Value) : Action Entries := do
  let y ← entriesAs name v
  finish y
  return y.items

end Action

end FlowDouble
