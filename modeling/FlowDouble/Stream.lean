import FlowDouble.Report
/-! Streams over bytes, the writer of texts, and uploaded files. Nothing about a file can be changed;
each stream opened over it has bytes of its own. What the content is, is not checked. -/
namespace FlowDouble

open FlowDouble.Action

namespace Stream

def read (s : Stream) (n : Option Nat) : List UInt8 × Stream :=
  let ahead := s.content.drop s.position
  let taken := match n with
    | some n => ahead.take n
    | none => ahead
  (taken, { s with position := s.position + taken.length })

def write (s : Stream) (bs : List UInt8) : Stream :=
  { content := s.content.take s.position ++ bs ++ s.content.drop (s.position + bs.length)
    position := s.position + bs.length }

def count : Value → Except Fault (Option Nat)
  | .null => .ok none
  | .bool b => .ok (some (if b then 1 else 0))
  | .int n =>
    if countable n then .ok (if n < 0 then none else some n.toNat)
    else .error (.misuse .hugeCount)
  | v => .error (.misuse (.notCount v.kindOf))

def readFrom (r : Nat) (asked : Value) : Action Value := do
  let n ← ofExcept (count asked)
  let (taken, s) := ((← world).stream r).read n
  modify fun w => w.setStream r s
  return .bytes taken

def writeTo (r : Nat) (v : Value) : Action Value := do
  match v with
  | .bytes bs =>
    modify fun w => w.setStream r ((w.stream r).write bs)
    return .int bs.length
  | v => misuse (.notBytes v.kindOf)

end Stream

namespace Writer

def write (r : Nat) (v : Value) : Action Value := do
  match v with
  | .text s =>
    modify fun w => w.setWritten r (w.written r ++ [s])
    return .int s.length
  | v => misuse (.notText v.kindOf)

def text (r : Nat) : Action Value := return .text (String.join ((← world).written r))

end Writer

namespace Upload

def size (content : Value) : Action Value := do return .int (← length content)

def isEmpty (content : Value) : Action Value := do return .bool (!(← truthy content))

def openStream (content : Value) : Action Value :=
  match content with
  | .bytes bs => newStream bs
  | .null => newStream []
  | v => misuse (.notBytes v.kindOf)

end Upload

end FlowDouble
