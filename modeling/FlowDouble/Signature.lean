import FlowDouble.Snapshot.Text
/-! Parameters of an operation, and how the values of a call are bound to them. -/
namespace FlowDouble

/-- A parameter without a name is bound by place only, and a keyword by name only. An optional one
without a default is left unbound where a call leaves it out; a keyword without one is needed. -/
inductive Parameter where
  | required (name : String)
  | optional (name : String) (default : Option Value)
  | rest (name : String)
  | keyword (name : String) (default : Option Value)
  | named (name : String)
  deriving Repr

structure Frame where
  bound : List (String × Value) := []
  rest : List Value := []
  named : List (String × Value) := []
  deriving Repr, Inhabited

def named? (name : String) (values : List (String × Value)) : Option Value :=
  (values.find? (·.1 == name)).map (·.2)

def without (name : String) (values : List (String × Value)) : List (String × Value) :=
  values.filter (·.1 != name)

namespace Frame

def value? (f : Frame) (name : String) : Option Value := FlowDouble.named? name f.bound

def value (f : Frame) (name : String) : Value := (f.value? name).getD .null

def bind (f : Frame) (name : String) (v : Value) : Frame :=
  { f with bound := (name, v) :: f.bound }

end Frame

def givenFor (name : String) (given : List (String × Value)) : Option Value :=
  if name.isEmpty then none else named? name given

inductive Receiver where
  | absent
  | named
  | unnamed
  deriving DecidableEq, Repr

structure Signature where
  owner : String
  name : String
  parameters : List Parameter
  receiver : Receiver := .named
  byPlaceAlone : Bool := false
  deriving Repr

namespace Parameter

def slot? : Parameter → Option (String × Bool)
  | required name => some (name, true)
  | optional name _ => some (name, false)
  | _ => none

def keyword? : Parameter → Option (String × Bool)
  | keyword name default => some (name, default.isNone)
  | _ => none

def isRest : Parameter → Bool
  | rest _ => true
  | _ => false

def isNamed : Parameter → Bool
  | named _ => true
  | _ => false

end Parameter

namespace Signature

def of (k : Kind) (name : String) (parameters : List Parameter) : Signature :=
  { owner := k.name, name, parameters }

def plain (k : Kind) (name : String) (parameters : List Parameter) : Signature :=
  { owner := k.name, name, parameters, byPlaceAlone := true }

def fullName (s : Signature) : String :=
  if s.owner.isEmpty then s.name else s.owner ++ "." ++ s.name

def slots (s : Signature) : List (String × Bool) := s.parameters.filterMap Parameter.slot?

def keywords (s : Signature) : List (String × Bool) := s.parameters.filterMap Parameter.keyword?

def handedOver (s : Signature) : Nat := if s.receiver = .absent then 0 else 1

def receiverName : String := "self"

def checkName (s : Signature) (placed : Nat) (name : String) : Except CallFault Unit :=
  if s.receiver = .named ∧ name = receiverName then .error (.givenTwice name)
  else
    match s.slots.findIdx? fun p => !p.1.isEmpty && p.1 == name with
    | some i => if i < placed then .error (.givenTwice name) else .ok ()
    | none =>
      if s.keywords.any (·.1 == name) || s.parameters.any Parameter.isNamed then .ok ()
      else .error (.unexpected name)

def checkNames (s : Signature) (placed : Nat) : List (String × Value) → Except CallFault Unit
  | [] => .ok ()
  | v :: vs => do
    s.checkName placed v.1
    s.checkNames placed vs

def checkCount (s : Signature) (a : Arguments) : Except CallFault Unit :=
  let placed := a.placed.length
  let most := s.slots.length
  if placed ≤ most ∨ s.parameters.any Parameter.isRest then .ok ()
  else
    let least := (s.slots.filter (·.2)).length
    let given := (s.keywords.filter fun p => (givenFor p.1 a.named).isSome).length
    .error (.tooMany (least + s.handedOver) (most + s.handedOver) (placed + s.handedOver) given)

def lacking (slots : List (String × Bool)) (given : List (String × Value)) : List String :=
  slots.filterMap fun p => if p.2 && (givenFor p.1 given).isNone then some p.1 else none

def checkNeeded (s : Signature) (a : Arguments) : Except CallFault Unit :=
  match lacking (s.slots.drop a.placed.length) a.named, lacking s.keywords a.named with
  | [], [] => .ok ()
  | [], names => .error (.missingKeywords names)
  | names, _ => .error (.missing names)

def checkPlaces (s : Signature) (a : Arguments) : Except Misuse Unit :=
  let fault (c : CallFault) : Except Misuse Unit := .error (.call s.fullName c)
  let n := a.placed.length
  if !a.named.isEmpty then fault .noneNamed
  else
    match s.slots with
    | [] => if n = 0 then .ok () else fault (.takesNone n)
    | (_, true) :: _ => if n = 1 then .ok () else fault (.takesOne n)
    | (_, false) :: _ =>
      if n ≤ 1 then .ok () else .error (.call s.name (.atMostOne n))

def check (s : Signature) (a : Arguments) : Except Misuse Unit :=
  if s.byPlaceAlone then s.checkPlaces a
  else
    match (do
      s.checkNames a.placed.length a.named
      s.checkCount a
      s.checkNeeded a : Except CallFault Unit) with
    | .ok () => .ok ()
    | .error c => .error (.call s.fullName c)

end Signature

def fill : List Parameter → List Value → List (String × Value) → Frame
  | [], _, _ => {}
  | .required name :: ps, v :: vs, given => (fill ps vs given).bind name v
  | .optional name _ :: ps, v :: vs, given => (fill ps vs given).bind name v
  | .required name :: ps, [], given =>
    match givenFor name given with
    | some v => (fill ps [] (without name given)).bind name v
    | none => fill ps [] given
  | .optional name default :: ps, [], given =>
    match givenFor name given, default with
    | some v, _ => (fill ps [] (without name given)).bind name v
    | none, some d => (fill ps [] given).bind name d
    | none, none => fill ps [] given
  | .rest _ :: ps, vs, given => { fill ps [] given with rest := vs }
  | .keyword name default :: ps, vs, given =>
    match givenFor name given, default with
    | some v, _ => (fill ps vs (without name given)).bind name v
    | none, some d => (fill ps vs given).bind name d
    | none, none => fill ps vs given
  | .named _ :: ps, vs, given => { fill ps vs [] with named := given }

def Signature.bind (s : Signature) (a : Arguments) : Except Fault Frame :=
  match s.check a with
  | .ok () => .ok (fill s.parameters a.placed a.named)
  | .error m => .error (.misuse m)

def Parameter.shown : Parameter → String
  | required name => name
  | optional name (some d) | keyword name (some d) =>
    name ++ "=" ++ ((d.snapshot .empty).spell.toOption.getD "")
  | optional name none | keyword name none => name
  | rest name => "*" ++ name
  | named name => "**" ++ name

def parameterTexts (starred : Bool) : List Parameter → List String
  | [] => []
  | p :: ps =>
    let more := p.shown :: parameterTexts (starred || p.isRest || p.keyword?.isSome) ps
    if p.keyword?.isSome && !starred then "*" :: more else more

def signatureText (ps : List Parameter) : String :=
  "(" ++ commaJoined (parameterTexts false ps) ++ ")"

def namedEntries (values : List (String × Value)) : Entries :=
  values.map fun v => (.text v.1, v.2)

end FlowDouble
