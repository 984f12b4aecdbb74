/-! Words of the IEEE 754 format binary64 as exact numbers, and the word nearest to a quotient. -/
namespace FlowDouble

def twoTo (n : Nat) : Nat := Nat.pow 2 n

def tenTo (n : Nat) : Nat := Nat.pow 10 n

inductive Number where
  | finite (m : Int) (q : Int)
  | infinite (negative : Bool)
  | undefined
  deriving DecidableEq, Repr

def Number.ofInt (n : Int) : Number := .finite n 0

def Number.aligned (m q n r : Int) : Int × Int :=
  let low := min q r
  (m * twoTo (q - low).toNat, n * twoTo (r - low).toNat)

def Number.equal : Number → Number → Bool
  | .finite m q, .finite n r => let p := aligned m q n r; p.1 == p.2
  | .infinite a, .infinite b => a == b
  | _, _ => false

def Number.less : Number → Number → Bool
  | .finite m q, .finite n r => let p := aligned m q n r; p.1 < p.2
  | .infinite a, .infinite b => a && !b
  | .infinite a, .finite .. => a
  | .finite .., .infinite b => !b
  | _, _ => false

namespace Binary64

def negative (w : UInt64) : Bool := w.toNat / twoTo 63 == 1

def exponentField (w : UInt64) : Nat := w.toNat / twoTo 52 % twoTo 11

def fraction (w : UInt64) : Nat := w.toNat % twoTo 52

def magnitude (w : UInt64) : Nat × Int :=
  if exponentField w = 0 then (fraction w, -1074)
  else (twoTo 52 + fraction w, (exponentField w : Int) - 1075)

def number (w : UInt64) : Number :=
  if exponentField w = 2047 then
    if fraction w = 0 then .infinite (negative w) else .undefined
  else
    let (m, q) := magnitude w
    .finite (if negative w then -(m : Int) else m) q

def infinity : Nat := 2047 * twoTo 52

def roundQuotient (num den : Nat) : Nat :=
  let d := num / den
  let r := num % den
  if 2 * r < den then d
  else if den < 2 * r then d + 1
  else d + d % 2

def binaryOrder (num den : Nat) : Int :=
  let e : Int := (num.log2 : Int) - den.log2
  if den * twoTo e.toNat ≤ num * twoTo (-e).toNat then e else e - 1

/-- The word nearest to a quotient, ties to even. The significand runs over into the exponent
field when it is rounded up to the next power of two, which is as it should be. -/
def ofQuotient (negative : Bool) (num den : Nat) : UInt64 :=
  let q := max (-1074) (binaryOrder num den - 52)
  let m := roundQuotient (num * twoTo (-q).toNat) (den * twoTo q.toNat)
  let w := if num = 0 then 0 else min infinity ((q + 1074).toNat * twoTo 52 + m)
  UInt64.ofNat (w + if negative then twoTo 63 else 0)

def ofDecimal (negative : Bool) (m : Nat) (e : Int) : UInt64 :=
  let sign := if negative then twoTo 63 else 0
  let order := (Nat.toDigits 10 m).length + e
  if m = 0 ∨ order < -330 then UInt64.ofNat sign
  else if 320 < order then UInt64.ofNat (infinity + sign)
  else ofQuotient negative (m * tenTo e.toNat) (tenTo (-e).toNat)

end Binary64

end FlowDouble
