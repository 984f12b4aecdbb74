import FlowDouble.Number.Binary64
/-! The decimal of fewest digits that reads back as a given binary64 word, and its layout. -/
namespace FlowDouble.Binary64

structure Neighbourhood where
  value : Nat
  below : Nat
  above : Nat
  unit : Nat
  closed : Bool
  deriving DecidableEq, Repr

def neighbourhood (w : UInt64) : Neighbourhood :=
  let (m, q) := magnitude w
  let scale := twoTo (q - 2).toNat
  -- the lower neighbour of a power of two is only half as far away
  let narrow := fraction w = 0 ∧ 1 < exponentField w
  ⟨4 * m * scale, (if narrow then 1 else 2) * scale, 2 * scale, twoTo (2 - q).toNat, m % 2 == 0⟩

def Neighbourhood.has (n : Neighbourhood) (num den : Nat) : Bool :=
  let x := num * n.unit
  let low := (n.value - n.below) * den
  let high := (n.value + n.above) * den
  if n.closed then low ≤ x && x ≤ high else low < x && x < high

def Neighbourhood.decimalOrder (n : Neighbourhood) : Int :=
  (Nat.toDigits 10 (n.value * tenTo 400 / n.unit)).length - 401

structure Decimal where
  digits : Nat
  exponent : Int
  deriving DecidableEq, Repr

def Neighbourhood.onGrid (n : Neighbourhood) (e : Int) : Option Decimal :=
  let num := n.value * tenTo (-e).toNat
  let den := n.unit * tenTo e.toNat
  let d := num / den
  let inside (k : Nat) := n.has (k * tenTo e.toNat) (tenTo (-e).toNat)
  if inside d then
    if inside (d + 1) then some ⟨roundQuotient num den, e⟩ else some ⟨d, e⟩
  else if inside (d + 1) then some ⟨d + 1, e⟩ else none

def shortest (w : UInt64) : Decimal :=
  let n := neighbourhood w
  let order := n.decimalOrder
  let grids := (List.range 17).map fun (k : Nat) => order - k
  (grids.findSome? n.onGrid).getD ⟨0, 0⟩

structure Layout where
  lowest : Int
  highest : Int
  exponentWidth : Nat
  deriving DecidableEq, Repr

def layout : Layout := ⟨-3, 16, 2⟩

def Layout.write (l : Layout) (d : Decimal) : List Char :=
  let all := Nat.toDigits 10 d.digits
  let point := all.length + d.exponent
  let digits := (all.reverse.dropWhile (· == '0')).reverse
  if l.lowest ≤ point ∧ point ≤ l.highest then
    if point ≤ 0 then '0' :: '.' :: (List.replicate (-point).toNat '0' ++ digits)
    else
      let whole := digits.take point.toNat
      let rest := digits.drop point.toNat
      whole ++ List.replicate (point.toNat - whole.length) '0' ++
        '.' :: (if rest.isEmpty then ['0'] else rest)
  else
    let order := point - 1
    let size := Nat.toDigits 10 order.natAbs
    digits.take 1 ++ (if digits.length ≤ 1 then [] else '.' :: digits.drop 1) ++
      'e' :: (if order < 0 then '-' else '+') ::
        (List.replicate (l.exponentWidth - size.length) '0' ++ size)

def text (w : UInt64) : String :=
  let sign := if negative w then "-" else ""
  if exponentField w = 2047 then
    if fraction w = 0 then sign ++ "inf" else "nan"
  else if (magnitude w).1 = 0 then sign ++ "0.0"
  else sign ++ String.ofList (layout.write (shortest w))

end FlowDouble.Binary64
