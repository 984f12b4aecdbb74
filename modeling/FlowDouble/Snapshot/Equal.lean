import FlowDouble.Snapshot
/-! Equality and order of snapshots. Mappings of all forms are equal when they have the same entries, in
whatever order, and so are the keys or items they show; numbers are equal by value across their
kinds. Only a view that fails to tell its entries refuses to be compared. Texts, bytes, numbers and
rows of one form are ordered, anything else is not. Rows go by the first place in which they differ; a
row that ends there comes first. -/
namespace FlowDouble.Snapshot

def number? : Snapshot → Option Number
  | bool b => some (.ofInt (if b then 1 else 0))
  | int n => some (.ofInt n)
  | float _ w => some (Binary64.number w)
  | _ => none

def equalAtoms : Snapshot → Snapshot → Bool
  | null, null => true
  | text a, text b => a == b
  | bytes a, bytes b => a == b
  | context a .., context b .. => a == b
  | writer a _, writer b _ => a == b
  | stream a _, stream b _ => a == b
  | report a .., report b .. => a == b
  | fault a .., fault b .. => a == b
  | token a, token b => a == b
  | lock a, lock b => a == b
  | kind a, kind b => a == b
  | converter a, converter b => a == b
  | function a, function b => a == b
  | operation _ a m, operation _ b n => a.same b && m == n
  | pending a, pending b => a == b
  | x, y =>
    match x.number?, y.number? with
    | some a, some b => a.equal b
    | _, _ => false

def identical : Snapshot → Snapshot → Bool
  | float a x, float b y => a == b && x == y
  | view a .., view b .. => a.same b
  | _, _ => false

def toldTo (asking : Form) : Snapshot → Option Snapshot
  | view _ (.attributes _) _ told listed =>
    match asking with
    | .parameters _ => some listed
    | _ => some told
  | view _ _ _ told listed =>
    match asking with
    | .attributes _ => some told
    | _ => some listed
  | mapping _ es => some (mapping .dictionary es)
  | untold f => some (untold f)
  | _ => none

def entriesFor (asking : Form) : Snapshot → Option (Except Fault (List (Snapshot × Snapshot)))
  | mapping _ es => some (.ok es)
  | view _ form _ told listed =>
    match asking, form with
    | .parameters _, _ | .dictionary, .parameters _ => entriesFor .dictionary listed
    | _, _ => entriesFor .dictionary told
  | untold f => some (.error f)
  | _ => none

mutual

def equal : Snapshot → Snapshot → Except Fault Bool
  | list xs, list ys => if xs.length = ys.length then allAlike xs ys else .ok false
  | tuple xs, tuple ys => allAlike xs ys
  | mapping form xs, y =>
    match entriesFor form y with
    | some ys => do
      let ys ← ys
      if xs.length = ys.length then allIn xs ys else return false
    | none => .ok false
  | view _ form _ told listed, y =>
    match toldTo form y, form with
    | none, _ => .ok false
    | some y, .attributes _ => equal told y
    | some y, _ => equal listed y
  | upload n c r t, upload n' c' r' t' => do
    if !(← if identical n n' then .ok true else equal n n') then return false
    if !(← if identical c c' then .ok true else equal c c') then return false
    if !(← if identical r r' then .ok true else equal r r') then return false
    if identical t t' then .ok true else equal t t'
  | principal n, principal n' => if identical n n' then .ok true else equal n n'
  | untold f, _ | _, untold f => .error f
  | facet a f _ xs, facet b g _ ys =>
    if f = .values ∨ g = .values then .ok (a == b)
    else if xs.length = ys.length then allAmong xs ys else .ok false
  | x, y => .ok (equalAtoms x y)

def allAlike : List Snapshot → List Snapshot → Except Fault Bool
  | [], [] => .ok true
  | x :: xs, y :: ys => do
    if ← if identical x y then .ok true else equal x y then allAlike xs ys else return false
  | _, _ => .ok false

def allAmong : List Snapshot → List Snapshot → Except Fault Bool
  | [], _ => .ok true
  | x :: xs, ys => do
    if ← ys.anyM fun y => if identical x y then .ok true else equal x y then allAmong xs ys
    else return false

def allIn : List (Snapshot × Snapshot) → List (Snapshot × Snapshot) → Except Fault Bool
  | [], _ => .ok true
  | (k, v) :: es, ys => do
    if ← ys.anyM fun e => do
        if ← if identical k e.1 then .ok true else equal k e.1 then
          if identical v e.2 then .ok true else equal v e.2
        else return false
      then allIn es ys
    else return false

end

def alike (x y : Snapshot) : Except Fault Bool := if identical x y then .ok true else equal x y

mutual

def less : Snapshot → Snapshot → Except Fault Bool
  | text a, text b => .ok (a < b)
  | bytes a, bytes b => .ok (a < b)
  | list xs, list ys => rowLess xs ys
  | tuple xs, tuple ys => rowLess xs ys
  | x, y =>
    match x.number?, y.number? with
    | some a, some b => .ok (a.less b)
    | _, _ => .error (.misuse (.unordered x.kindOf y.kindOf))

def rowLess : List Snapshot → List Snapshot → Except Fault Bool
  | _, [] => .ok false
  | [], _ :: _ => .ok true
  | x :: xs, y :: ys => do if ← alike x y then rowLess xs ys else less x y

end

end FlowDouble.Snapshot
