import FlowDouble.Snapshot
import FlowDouble.Number.Shortest
import FlowDouble.Text.Quoted
/-! The two texts of a value: the one for display and the one that tells its structure. -/
namespace FlowDouble

def commaJoined (parts : List String) : String := ", ".intercalate parts

def boolText (b : Bool) : String := if b then "True" else "False"

structure Sections where
  kind : String
  message : String
  context : List (String × String)
  debug : List (String × String)
  suggestions : List String
  deriving DecidableEq, Repr

namespace Sections

def entryLine (e : String × String) : String := "  " ++ e.1 ++ ": " ++ e.2

def suggestionLine (s : String) : String := "  → " ++ s

def titled (title : String) : List String → List String
  | [] => []
  | lines => "" :: title :: lines

def lines (s : Sections) : List String :=
  (s.kind ++ ": " ++ s.message) :: (titled "Error Context:" (s.context.map entryLine) ++
    titled "Debug Information:" (s.debug.map entryLine) ++
    titled "Did you mean?" (s.suggestions.map suggestionLine))

def render (s : Sections) : String := "\n".intercalate s.lines

end Sections

inductive Manner where
  | display
  | spelling
  deriving DecidableEq, Repr

namespace Snapshot

abbrev Spelled := Except Fault String

def Form.wrap (form : Form) (entries : List String) : String :=
  let body := "\x7b" ++ commaJoined entries ++ "\x7d"
  match form with
  | .dictionary => body
  | form => form.kind.name ++ "(" ++ body ++ ")"

def noItems : Snapshot → Fault
  | kind k => .misuse (.ofKind k "items")
  | x => .misuse (.lacks x.kindOf "items")

def wrapTuple : List String → String
  | [x] => "(" ++ x ++ ",)"
  | xs => "(" ++ commaJoined xs ++ ")"

mutual

/-- Few values are displayed in a way of their own. A principal without a textual name has no text
for display, nor has a report whose metadata tells no items. What a plain failure was raised with
is shown as it is when it is one value, and a missing key is spelled. -/
def write : Manner → Snapshot → Spelled
  | .display, text s => .ok s
  | .display, principal (text s) => .ok s
  | .display, principal name => .error (.misuse (.nameless name.kindOf))
  | .display, report _ k message metadata debug suggestions _ _ _ => do
    let message ← message.write .display
    let context ← writeListed metadata
    let debug ← writePairs debug
    let suggestions ← writeAll .display suggestions
    return (Sections.mk k.name message context debug suggestions).render
  | .display, fault _ _ [] => .ok ""
  | .display, fault _ .missingKey [key] => key.write .spelling
  | .display, fault _ _ [value] => value.write .display
  | .display, fault _ _ values => do return wrapTuple (← writeAll .spelling values)
  | _, null => .ok "None"
  | _, bool b => .ok (boolText b)
  | _, int n => .ok (toString n)
  | _, float _ w => .ok (Binary64.text w)
  | .spelling, text s => .ok (Text.quote s)
  | _, bytes bs => .ok (Text.quoteBytes bs)
  | _, list xs => do return "[" ++ commaJoined (← writeAll .spelling xs) ++ "]"
  | _, tuple xs => do return wrapTuple (← writeAll .spelling xs)
  | _, mapping form es => do return Form.wrap form (← writeEntries es)
  | _, view _ (.attributes shared) _ told _ => do
    return (Form.attributes shared).kind.name ++ "(" ++ (← told.write .display) ++ ")"
  | _, view _ form items _ _ => do return Form.wrap form (← writeEntries items)
  | _, untold f => .error f
  | _, upload n c r t => do
    return Kind.upload.name ++ "(name=" ++ (← n.write .spelling) ++
      ", content=" ++ (← c.write .spelling) ++
      ", original_filename=" ++ (← r.write .spelling) ++
      ", content_type=" ++ (← t.write .spelling) ++ ")"
  | .spelling, principal n => do
    return Kind.principal.name ++ "(name=" ++ (← n.write .spelling) ++ ")"
  | _, context _ complete members => do
    return Kind.context.name ++ "(context_path=" ++
      (← writeMember .spelling "context_path" members) ++
      ", response_complete=" ++ boolText complete ++
      ", redirect_requested=" ++ (← writeMember .display "redirect_requested" members) ++ ")"
  | _, writer .. => .ok ("<" ++ Kind.writer.fullName ++ " object>")
  | _, stream .. => .ok ("<" ++ Kind.stream.fullName ++ " object>")
  | .spelling, report _ k _ _ _ _ arguments _ _ | .spelling, fault _ k arguments => do
    return k.name ++ "(" ++ commaJoined (← writeAll .spelling arguments) ++ ")"
  | _, token _ => .ok "<object object>"
  | _, lock _ => .ok "<lock>"
  | _, kind k => .ok k.shown
  | _, converter .length => .ok "<built-in function len>"
  | _, converter _ | _, function _ => .ok "<function>"
  | _, operation .. => .ok "<method>"
  | _, facet _ f map _ => do return f.kind.name ++ "(" ++ (← map.write .spelling) ++ ")"
  | _, pending _ => .ok "<coroutine object>"

def writeAll (m : Manner) : List Snapshot → Except Fault (List String)
  | [] => .ok []
  | x :: xs => do
    let text ← x.write m
    return text :: (← writeAll m xs)

def writeEntries : List (Snapshot × Snapshot) → Except Fault (List String)
  | [] => .ok []
  | (k, v) :: es => do
    let k ← k.write .spelling
    let v ← v.write .spelling
    return (k ++ ": " ++ v) :: (← writeEntries es)

def writePairs : List (Snapshot × Snapshot) → Except Fault (List (String × String))
  | [] => .ok []
  | (k, v) :: es => do
    let k ← k.write .display
    let v ← v.write .display
    return (k, v) :: (← writePairs es)

def writeListed : Snapshot → Except Fault (List (String × String))
  | mapping _ es => writePresent es
  | view _ _ _ _ listed => writeListed listed
  | untold f => .error f
  | x => .error x.noItems

def writePresent : List (Snapshot × Snapshot) → Except Fault (List (String × String))
  | [] => .ok []
  | (_, null) :: es => writePresent es
  | (k, v) :: es => do
    let k ← k.write .display
    let v ← v.write .display
    return (k, v) :: (← writePresent es)

def writeMember (m : Manner) (name : String) : List (String × Snapshot) → Spelled
  | [] => .ok ""
  | (n, v) :: ms => if n = name then v.write m else writeMember m name ms

end

def display (x : Snapshot) : Spelled := x.write .display

def spell (x : Snapshot) : Spelled := x.write .spelling

end Snapshot

end FlowDouble
