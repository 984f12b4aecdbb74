import FlowDouble.Report
import FlowDouble.Text.LetterCase
/-! How much of the trail is let through: levels, the environment's wish, and the place where
records go. -/
namespace FlowDouble

inductive Level where
  | number (n : Int)
  | flag (b : Bool)
  deriving DecidableEq, Repr, Inhabited

namespace Level

def value : Level → Int
  | number n => n
  | flag b => if b then 1 else 0

def names : List (String × Int) :=
  [("CRITICAL", 50), ("FATAL", 50), ("ERROR", 40), ("WARNING", 30), ("WARN", 30), ("INFO", 20),
   ("DEBUG", 10), ("NOTSET", 0)]

def ofName (s : String) : Except Fault Level :=
  match names.find? (·.1 == s) with
  | some e => .ok (.number e.2)
  | none => .error (.told .wrongValue ("Unknown level: " ++ Text.quote s))

def ofValue : Value → Except Fault Level
  | .int n => .ok (.number n)
  | .bool b => .ok (.flag b)
  | .text s => ofName s
  | _ => .error (.told .wrongType "Level not an integer or a valid string")

end Level

def recordLevel : Int := 10

def defaultRootLevel : Int := 30

def levelVariable : String := "FLOWTEST_LOG_LEVEL"

def defaultLevelName : String := "WARNING"

def recordFormat : String := "%(asctime)s - %(name)s - %(levelname)s - %(message)s"

structure Logging where
  environment : Option String := none
  level : Level := .number 0
  rootLevel : Int := defaultRootLevel
  rootFormats : List String := []
  deriving Repr, Inhabited

namespace Logging

def wished (l : Logging) : String :=
  String.ofList (Text.upper (l.environment.getD defaultLevelName).toList)

def effective (l : Logging) : Level :=
  if l.level.value = 0 then .number l.rootLevel else l.level

def prepareRoot (l : Logging) : Logging :=
  if l.rootFormats.isEmpty then
    { l with rootFormats := [recordFormat], rootLevel := defaultRootLevel }
  else l

def configure (l : Logging) (given : Value) : Except Fault Unit × Logging :=
  let level := match given with
    | .null => Level.ofName l.wished
    | given => Level.ofValue given
  match level with
  | .ok level => (.ok (), { l.prepareRoot with level })
  -- the root stays prepared when the level is refused
  | .error f => (.error f, l.prepareRoot)

def passes (l : Logging) : Bool := l.effective.value ≤ recordLevel

end Logging

end FlowDouble
