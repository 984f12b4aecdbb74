import FlowDouble.Entries
import FlowDouble.Misuse
/-! Why an operation failed. A report is a failure of the flow's surroundings that explains
itself: a message, what it was raised with, hints for mending the set-up, and the failure it was
raised from. -/
namespace FlowDouble

inductive Diagnosis where
  | general
  | illegalState
  | redirectNotRequested
  | responseNotAllowed (reason : Value)
  | configuration
  | attributeNotFound (key : Value)
  | attributeType (key expected : Value)
  deriving Repr, Inhabited

def Diagnosis.kind : Diagnosis → Kind
  | general => .flowError
  | illegalState => .illegalState
  | redirectNotRequested => .redirectNotRequested
  | responseNotAllowed _ => .responseNotAllowed
  | configuration => .configuration
  | attributeNotFound _ => .attributeNotFound
  | attributeType .. => .attributeType

mutual

structure Report where
  diagnosis : Diagnosis
  message : Value
  metadata : Entries := []
  debug : Entries := []
  suggestions : List Value := []
  cause : Option Fault := none

-- A missing entry is told by its key; there is none to tell where there are no entries.
inductive Fault where
  | report (r : Report)
  | missingKey (key : Option Value)
  | misuse (m : Misuse)

end

deriving instance Repr, Inhabited for Report, Fault

def Report.suggest (r : Report) (suggestion : Value) : Report :=
  { r with suggestions := r.suggestions ++ [suggestion] }

def Report.note (r : Report) (key value : Value) : Report :=
  { r with debug := r.debug.insert key value }

namespace Fault

def told (k : Kind) (words : String) : Fault := misuse (.told k words)

def kind : Fault → Kind
  | report r => r.diagnosis.kind
  | missingKey _ => .missingKey
  | misuse m => m.kind

def arguments : Fault → List Value
  | report r => [r.message]
  | missingKey key => key.toList
  | misuse m => if m.text.isEmpty then [] else [.text m.text]

end Fault

end FlowDouble
