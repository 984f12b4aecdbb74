import FlowDouble.Invocation
import FlowDouble.Script.Literal
/-! The requests of a script and what each yields. One of them tries the lock of a map, which whoever
holds it may take again. It is free for others once it has been released as often as it was taken. -/
namespace FlowDouble

structure Lock where
  depth : Nat := 0
  deriving DecidableEq, Repr

namespace Lock

def take (l : Lock) : Lock := ⟨l.depth + 1⟩

def release (l : Lock) : Lock := ⟨l.depth - 1⟩

def isFree (l : Lock) : Bool := l.depth == 0

def trial (l : Lock) : List Bool :=
  let held := l.take.take
  [held.isFree, held.release.isFree, held.release.release.isFree]

end Lock

namespace Script

open FlowDouble.Action

inductive Question where
  | call (method : String) (call : LiteralCall)
  | getMember (member : String)
  | setMember (member : String) (v : Literal)
  | getItem (key : Literal)
  | setItem (key v : Literal)
  | deleteItem (key : Literal)
  | contains (key : Literal)
  | length
  | truth
  | elements
  | keys
  | values
  | items
  | spelled
  | shown
  | kindName
  | isInstance (k : Kind)
  | tryLock
  | seed (fields : List (String × Literal))
  deriving Repr

def Question.showsSubject : Question → Bool
  | call .. | setMember .. | setItem .. | deleteItem .. | seed .. => true
  | _ => false

inductive Request where
  | about (subject : String) (q : Question)
  | bind (v : Literal)
  | make (k : Kind) (call : LiteralCall)
  | equal (a b : Literal)
  | same (a b : Literal)
  | fresh
  | produce (fields : List (String × Literal))
  | decorate (handler : Handler) (fields : List (String × Literal))
  | decorateAgain (on : String) (fields : List (String × Literal))
  | invoke (on : String) (call : LiteralCall)
  deriving Repr

abbrev Table := List (String × Value)

namespace Table

def lookup (t : Table) (name : String) : Option Value :=
  (List.find? (·.1 == name) t).map (·.2)

def insert (name : String) (v : Value) : Table → Table
  | [] => [(name, v)]
  | (n, x) :: rest => if n = name then (n, v) :: rest else (n, x) :: insert name v rest

def require (t : Table) (name : String) : Action Value :=
  match t.lookup name with
  | some v => pure v
  | none => throw (.missingKey (some (.text name)))

end Table

def lockTrial (v : Value) : Action Value := do
  match ← v.getMember "mutex" with
  | .lock _ => newList (({} : Lock).trial.map .bool)
  | other => misuse (.noMember other "acquire")

def request (v : Value) (name : String) (placed : List Value) : Action Unit := do
  let _ ← v.call name ⟨placed, []⟩

def seedElsewhere (v : Value) : List (String × Value) → Action Unit
  | [] => return ()
  | (name, x) :: rest => do
    match Field.named? name with
    | some (.setting s) => v.setMember s.name x
    | some .parameters =>
      x.forItems fun name y => request v "put_request_parameter" [name, y]
    | some .event => request v "set_event_id" [x]
    | none => refuseWith (unknownField (← world) name)
    seedElsewhere v rest

def seedOn (v : Value) (fields : List (String × Value)) : Action Value := do
  match v with
  | .context r => Context.seed r fields
  | v => do
    Context.checkReserved fields
    seedElsewhere v fields
  return v

def produceContext (fields : List (String × Value)) : Action Value := do
  let r ← Context.create .null
  Context.seed r fields
  return .context r

def listed (v : Value) (name : String) (tell : Action (List Value)) : Action Value := do
  match (← world).attachment? v name with
  | some x => newList (← elements (← x.apply ⟨[], []⟩))
  | none => newList (← tell)

def askAbout (v : Value) (look : String → Option Value) : Question → Action Value
  | .call method call => do (← v.getMember method).apply (← call.build look)
  | .getMember member => v.getMember member
  | .setMember member x => do yieldNothing (v.setMember member (← x.build look))
  | .getItem key => do v.getItem (← key.build look)
  | .setItem key x => do
    let x ← x.build look
    yieldNothing (v.setItem (← key.build look) x)
  | .deleteItem key => do yieldNothing (v.deleteItem (← key.build look))
  | .contains key => do return .bool (← v.contains (← key.build look))
  | .length => do return .int (← Action.length v)
  | .truth => do return .bool (← truthy v)
  | .elements => do newList (← Action.elements v)
  | .keys => listed v "keys" do
    if v.isMapping then Action.elements v else return (← Action.entries "keys" v).keys
  | .values => listed v "values" do return (← Action.entries "values" v).values
  | .items => listed v "items" do Value.pairsOf (← Action.entries "items" v)
  | .spelled => return .text (← Action.spelled v)
  | .shown => return .text (← Action.shown v)
  | .kindName => return .text v.kindOf.name
  | .isInstance k => return .bool (v.isA k)
  | .tryLock => lockTrial v
  | .seed fields => do seedOn v (← Literal.buildNamed look fields)

def decorateAgain (v : Value) (fields : List (String × Value)) : Action Value := do
  match v with
  | .function r => do
    let w ← world
    let wrapped ← newFunction ((w.function r).wrap fields)
    attachAll wrapped (w.attached v)
    return wrapped
  | v => misuse (.notCallable v.kindOf)

def ask (t : Table) (r : Request) : Action Value := do
  let look := t.lookup
  match r with
  | .about subject q => askAbout (← t.require subject) look q
  | .bind v => v.build look
  | .make k call => (Value.kind k).apply (← call.build look)
  | .equal a b => do
    let a ← a.build look
    let b ← b.build look
    return .bool (← a.isEqual b)
  | .same a b => do
    let x ← a.build look
    let y ← b.build look
    return .bool (a.keptOnce && b.keptOnce && x.same y)
  | .fresh => produceContext []
  | .produce fields => do produceContext (← Literal.buildNamed look fields)
  | .decorate h fields => do newFunction ⟨h, [← Literal.buildNamed look fields]⟩
  | .decorateAgain on fields => do
    let v ← t.require on
    decorateAgain v (← Literal.buildNamed look fields)
  | .invoke on call => do (← t.require on).invoke (← call.build look)

end Script

end FlowDouble
