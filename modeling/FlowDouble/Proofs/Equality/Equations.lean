import FlowDouble.Snapshot.Equal
/-! How equality takes snapshots apart: what is equal on its own account, and what is compared part by
part. -/
namespace FlowDouble.Snapshot

def isAtom : Snapshot → Bool
  | list _ | tuple _ | mapping .. | view .. | upload .. | principal _ | untold _ | facet .. => false
  | _ => true

theorem equalOfAtom {x : Snapshot} (atom : x.isAtom = true) (y : Snapshot) :
    equal x y = match y with
      | untold f => .error f
      | y => .ok (equalAtoms x y) := by
  cases x <;> first | contradiction | (cases y <;> simp [equal])

theorem equalOfView (self : Value) (form : Form) (es : List (Snapshot × Snapshot))
    (told listed y : Snapshot) :
    equal (view self form es told listed) y = match toldTo form y, form with
      | none, _ => .ok false
      | some y, .attributes _ => equal told y
      | some y, _ => equal listed y :=
  (equal.eq_def _ _).trans rfl

theorem equalOfUploads (n c o t n' c' o' t' : Snapshot) :
    equal (upload n c o t) (upload n' c' o' t') = (do
      if !(← alike n n') then return false
      if !(← alike c c') then return false
      if !(← alike o o') then return false
      alike t t') := by
  rw [equal]
  unfold alike
  cases identical n n' <;> cases identical c c' <;> cases identical o o' <;> rfl

theorem allAlikeCons (x y : Snapshot) (xs ys : List Snapshot) :
    allAlike (x :: xs) (y :: ys) = (do
      if ← alike x y then allAlike xs ys else return false) := by
  rw [allAlike]
  unfold alike
  cases identical x y <;> rfl

theorem allAmongCons (x : Snapshot) (xs ys : List Snapshot) :
    allAmong (x :: xs) ys = (do if ← ys.anyM (alike x) then allAmong xs ys else return false) := by
  rw [allAmong]
  rfl

theorem allInCons (k v : Snapshot) (es ys : List (Snapshot × Snapshot)) :
    allIn ((k, v) :: es) ys = (do
      if ← ys.anyM fun e => (do if ← alike k e.1 then alike v e.2 else return false) then
        allIn es ys
      else return false) := by
  rw [allIn]
  congr
  funext e
  unfold alike
  cases identical k e.1 <;> rfl

end FlowDouble.Snapshot
