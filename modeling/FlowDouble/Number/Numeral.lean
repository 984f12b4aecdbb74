import FlowDouble.Text.CharSet
import FlowDouble.Number.Binary64
/-! Reading numbers out of plain characters: whole numbers in a radix, and decimals with point and
exponent. Digits of every script are made plain first, and a single underscore may stand between
two. -/
namespace FlowDouble.Numeral

open Text (digit? isBlank)

def plain (c : Char) : Char :=
  if c.toNat < 0x7f then c
  else if isBlank c then ' '
  else match digit? c with
    | some d => Char.ofNat (0x30 + d)
    | none => '?'

def isSpace (c : Char) : Bool := c == ' ' || (9 ≤ c.toNat && c.toNat ≤ 13)

def digitValue? (c : Char) : Option Nat :=
  let n := c.toNat
  if 0x30 ≤ n ∧ n ≤ 0x39 then some (n - 0x30)
  else if 0x41 ≤ n ∧ n ≤ 0x5a then some (n - 0x37)
  else if 0x61 ≤ n ∧ n ≤ 0x7a then some (n - 0x57)
  else none

def digitIn? (base : Nat) (c : Char) : Option Nat := (digitValue? c).filter (· < base)

structure Radix where
  base : Nat
  marker : Option Char
  limit : Option Nat
  deriving DecidableEq, Repr

def markers : List (Char × Nat) := [('x', 16), ('o', 8), ('b', 2)]

def Radix.of (base : Nat) : Radix :=
  { base
    marker := (markers.find? (·.2 == base)).map (·.1)
    -- only digits of a power of two are read whatever their number
    limit := if twoTo base.log2 = base then none else some 4300 }

inductive Refusal where
  | malformed
  | tooLong (digits limit : Nat)
  deriving DecidableEq, Repr

def takeSign : List Char → Bool × List Char
  | '-' :: cs => (true, cs)
  | '+' :: cs => (false, cs)
  | cs => (false, cs)

def Radix.dropMarker (r : Radix) (cs : List Char) : List Char :=
  match r.marker, cs with
  | some m, '0' :: c :: rest =>
    if c.toLower = m then
      match rest with
      | '_' :: rest => rest
      | _ => rest
    else cs
  | _, _ => cs

def groups (base : Nat) : List Char → Option (List Nat)
  | [] => none
  | [c] => (digitIn? base c).map ([·])
  | c :: '_' :: rest => do
    let d ← digitIn? base c
    let ds ← groups base rest
    some (d :: ds)
  | c :: rest => do
    let d ← digitIn? base c
    let ds ← groups base rest
    some (d :: ds)

def ofDigits (base : Nat) (ds : List Nat) : Nat := ds.foldl (fun n d => n * base + d) 0

def Radix.read (r : Radix) (cs : List Char) : Except Refusal Int :=
  let (negative, cs) := takeSign (cs.dropWhile isSpace)
  let body := r.dropMarker cs
  let inRun (c : Char) := c == '_' || (digitIn? r.base c).isSome
  match groups r.base (body.takeWhile inRun) with
  | none => .error .malformed
  | some ds =>
    let within := match r.limit with
      | some limit => if limit < ds.length then some limit else none
      | none => none
    match within with
    | some limit => .error (.tooLong ds.length limit)
    | none =>
      if (body.dropWhile inRun).all isSpace then
        .ok (if negative then -(ofDigits r.base ds : Int) else ofDigits r.base ds)
      else .error .malformed

def markedBase (cs : List Char) : Nat × Bool :=
  match (takeSign (cs.dropWhile isSpace)).2 with
  | '0' :: c :: _ =>
    match markers.find? (·.1 == c.toLower) with
    | some m => (m.2, false)
    | none => (10, true)
  | _ => (10, false)

def readIn (base : Nat) (cs : List Char) : Except Refusal Int :=
  if base = 0 then
    let (base, zeroAlone) := markedBase cs
    match (Radix.of base).read cs with
    | .ok n => if zeroAlone && n != 0 then .error .malformed else .ok n
    | .error f => .error f
  else (Radix.of base).read cs

def dropUnderscores : (before : Char) → List Char → Option (List Char)
  | _, [] => some []
  | before, '_' :: c :: rest =>
    if before.isDigit && c.isDigit then (dropUnderscores c rest).map (c :: ·) else none
  | _, ['_'] => none
  | _, c :: rest => (dropUnderscores c rest).map (c :: ·)

def exponent? : List Char → Option Int
  | [] => some 0
  | e :: rest =>
    if e = 'e' ∨ e = 'E' then
      let (negative, ds) := takeSign rest
      if ds.isEmpty || !ds.all Char.isDigit then none
      else
        let n := ofDigits 10 (ds.map fun c => c.toNat - 0x30)
        some (if negative then -n else n)
    else none

def unsigned? (negative : Bool) (cs : List Char) : Option UInt64 :=
  let whole := cs.takeWhile Char.isDigit
  let (part, rest) := match cs.dropWhile Char.isDigit with
    | '.' :: rest => (rest.takeWhile Char.isDigit, rest.dropWhile Char.isDigit)
    | rest => ([], rest)
  if whole.isEmpty && part.isEmpty then none
  else do
    let e ← exponent? rest
    let m := ofDigits 10 ((whole ++ part).map fun c => c.toNat - 0x30)
    some (Binary64.ofDecimal negative m (e - part.length))

def readReal (cs : List Char) : Option UInt64 := do
  let cs ← dropUnderscores '_' (Text.trimWhere isSpace cs)
  let (negative, body) := takeSign cs
  let word := String.ofList (body.map Char.toLower)
  let sign := if negative then twoTo 63 else 0
  if word = "inf" ∨ word = "infinity" then some (UInt64.ofNat (Binary64.infinity + sign))
  else if word = "nan" then some (UInt64.ofNat (Binary64.infinity + twoTo 51 + sign))
  else unsigned? negative body

end FlowDouble.Numeral
