import FlowDouble.Report
import FlowDouble.Signature
/-! Values as a script writes them down. A name stands for the very value bound to it, but inside a
file or a principal nothing is looked up. -/
namespace FlowDouble

open FlowDouble.Action

inductive Literal where
  | null
  | bool (b : Bool)
  | int (n : Int)
  | float (word : UInt64)
  | text (s : String)
  | bytes (bs : List UInt8)
  | list (items : List Literal)
  | tuple (items : List Literal)
  | dictionary (entries : List (Literal × Literal))
  | upload (name content originalName contentType : Literal)
  | principal (name : Literal)
  | token
  | kind (k : Kind)
  | converter (c : Converter)
  | bound (name : String)
  deriving Repr, Inhabited

structure LiteralCall where
  placed : List Literal
  named : List (String × Literal)
  deriving Repr

namespace Literal

def lookUp (look : String → Option Value) (name : String) : Action Value :=
  match look name with
  | some v => return v
  | none => throw (.missingKey (some (.text name)))

def leave (name : String) : Action Value := newDictionary [(.text "$ref", .text name)]

mutual

def make (stands : String → Action Value) : Literal → Action Value
  | null => return .null
  | bool b => return .bool b
  | int n => return .int n
  | float w => return .float (← newTag) w
  | text s => return .text s
  | bytes bs => return .bytes bs
  | list items => do newList (← makeAll stands items)
  | tuple items => do newTuple (← makeAll stands items)
  | dictionary entries => do newDictionary (Entries.ofPairs (← makePairs stands entries))
  | upload n c o t => do
    let n ← n.make leave
    let c ← c.make leave
    let o ← o.make leave
    let t ← t.make leave
    return .upload (← newTag) n c o t
  | principal n => do
    let n ← n.make leave
    return .principal (← newTag) n
  | token => newToken
  | kind k => return .kind k
  | converter c => return .converter c
  | bound name => stands name

def makeAll (stands : String → Action Value) : List Literal → Action (List Value)
  | [] => return []
  | l :: ls => do
    let v ← l.make stands
    return v :: (← makeAll stands ls)

def makePairs (stands : String → Action Value) :
    List (Literal × Literal) → Action (List (Value × Value))
  | [] => return []
  | (k, l) :: ls => do
    let k ← k.make stands
    let v ← l.make stands
    requireHashable k
    return (k, v) :: (← makePairs stands ls)

end

def build (look : String → Option Value) (l : Literal) : Action Value := l.make (lookUp look)

def buildAll (look : String → Option Value) (ls : List Literal) : Action (List Value) :=
  makeAll (lookUp look) ls

/-- Small whole numbers and texts or bytes of at most one small character are kept once, so
writing one again gives the very same value. -/
def keptOnce : Literal → Bool
  | int n => -5 ≤ n && n ≤ 256
  | text s => s.toList.length ≤ 1 && s.toList.all fun c => c.toNat < 256
  | bytes bs => bs.length ≤ 1
  | _ => true

def insertNamed (name : String) (v : Value) : List (String × Value) → List (String × Value)
  | [] => [(name, v)]
  | (n, x) :: rest => if n = name then (n, v) :: rest else (n, x) :: insertNamed name v rest

def buildNamed (look : String → Option Value) (named : List (String × Literal)) :
    Action (List (String × Value)) := do
  let values ← buildAll look (named.map (·.2))
  return (named.map (·.1)).zip values |>.foldl (fun out p => insertNamed p.1 p.2 out) []

end Literal

def LiteralCall.build (look : String → Option Value) (c : LiteralCall) : Action Arguments := do
  let placed ← Literal.buildAll look c.placed
  return ⟨placed, ← Literal.buildNamed look c.named⟩

end FlowDouble
