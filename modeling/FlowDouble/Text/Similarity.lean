/-! Likeness of two texts: twice the characters matched over the characters of both. Matched
are the longest common block, leftmost in the first text and then in the second, and what
matches on either side of it. -/
namespace FlowDouble.Text

structure Block where
  left : Nat
  right : Nat
  size : Nat
  deriving DecidableEq, Repr

def commonStart : List Char → List Char → Nat
  | a :: as, b :: bs => if a = b then commonStart as bs + 1 else 0
  | _, _ => 0

def Block.orLonger (x y : Block) : Block := if x.size < y.size then y else x

def bestAt (i : Nat) (a : List Char) : Nat → List Char → Block → Block
  | _, [], best => best
  | j, b :: bs, best => bestAt i a (j + 1) bs (best.orLonger ⟨i, j, commonStart a (b :: bs)⟩)

def bestFrom (b : List Char) : Nat → List Char → Block → Block
  | _, [], best => best
  | i, a :: as, best => bestFrom b (i + 1) as (bestAt i (a :: as) 0 b best)

def longestBlock (a b : List Char) : Block := bestFrom b 0 a ⟨0, 0, 0⟩

theorem commonStartBound (a b : List Char) : commonStart a b ≤ a.length := by
  fun_induction commonStart a b <;> simp_all

theorem bestAtFits {i n : Nat} {a : List Char} (ha : i + a.length ≤ n) :
    ∀ (j : Nat) (b : List Char) (best : Block), best.left + best.size ≤ n →
      (bestAt i a j b best).left + (bestAt i a j b best).size ≤ n := by
  intro j b
  induction b generalizing j with
  | nil => exact fun _ h => h
  | cons b bs ih =>
    intro best h
    apply ih
    unfold Block.orLonger
    have := commonStartBound a (b :: bs)
    split
    · dsimp only; omega
    · exact h

theorem bestFromFits (b : List Char) {n : Nat} : ∀ (i : Nat) (a : List Char) (best : Block),
    i + a.length ≤ n → best.left + best.size ≤ n →
      (bestFrom b i a best).left + (bestFrom b i a best).size ≤ n := by
  intro i a
  induction a generalizing i with
  | nil => exact fun _ _ h => h
  | cons a as ih =>
    intro best ha h
    simp only [List.length_cons] at ha
    exact ih (i + 1) _ (by omega) (bestAtFits (by simp only [List.length_cons]; omega) _ _ _ h)

theorem longestBlockFits (a b : List Char) :
    (longestBlock a b).left + (longestBlock a b).size ≤ a.length :=
  bestFromFits b 0 a _ (by simp) (by simp)

def matched (a b : List Char) : Nat :=
  let k := longestBlock a b
  if k.size = 0 then 0
  else k.size + matched (a.take k.left) (b.take k.right)
    + matched (a.drop (k.left + k.size)) (b.drop (k.right + k.size))
termination_by a.length
decreasing_by
  all_goals
    have fits := longestBlockFits a b
    have some : ¬(longestBlock a b).size = 0 := by assumption
    simp only [List.length_take, List.length_drop]
    omega

structure Likeness where
  part : Nat
  whole : Nat
  deriving DecidableEq, Repr

def likeness (a b : String) : Likeness :=
  let total := a.length + b.length
  if total = 0 then ⟨1, 1⟩ else ⟨2 * matched a.toList b.toList, total⟩

def Likeness.le (x y : Likeness) : Bool := x.part * y.whole ≤ y.part * x.whole

def threshold : Likeness := ⟨3, 5⟩

def preferred (name x y : String) : String :=
  let lx := likeness x name
  let ly := likeness y name
  if lx.le ly && (!ly.le lx || x < y) then y else x

def closest (name : String) (candidates : List String) : Option String :=
  match candidates.filter fun c => threshold.le (likeness c name) with
  | [] => none
  | c :: cs => some (cs.foldl (preferred name) c)

end FlowDouble.Text
