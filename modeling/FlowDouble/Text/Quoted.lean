import FlowDouble.Text.Printable
/-! Texts and byte strings between quotes. Apostrophes are the quotes unless the content has
an apostrophe and no double quote; what is not printable is escaped by its code point. -/
namespace FlowDouble.Text

def hexDigit (n : Nat) : Char :=
  if n < 10 then Char.ofNat (0x30 + n) else Char.ofNat (0x57 + n)

def hex : (width : Nat) → Nat → List Char
  | 0, _ => []
  | w + 1, n => hex w (n / 16) ++ [hexDigit (n % 16)]

def escape (n : Nat) : List Char :=
  if n < 0x100 then '\\' :: 'x' :: hex 2 n
  else if n < 0x10000 then '\\' :: 'u' :: hex 4 n
  else '\\' :: 'U' :: hex 8 n

def apostrophe : Char := '\x27'

def doubleQuote : Char := '\x22'

def quoteFor (cs : List Char) : Char :=
  if apostrophe ∈ cs ∧ doubleQuote ∉ cs then doubleQuote else apostrophe

def encodeChar (q c : Char) : List Char :=
  if c = q ∨ c = '\\' then ['\\', c]
  else if c = '\n' then ['\\', 'n']
  else if c = '\r' then ['\\', 'r']
  else if c = '\t' then ['\\', 't']
  else if isPrintable c then [c]
  else escape c.toNat

def quoted (cs : List Char) : List Char :=
  let q := quoteFor cs
  q :: (cs.flatMap (encodeChar q) ++ [q])

def encodeByte (q : Char) (b : UInt8) : List Char :=
  if b.toNat < 0x7f then encodeChar q (Char.ofNat b.toNat) else escape b.toNat

def quotedBytes (bs : List UInt8) : List Char :=
  let q := quoteFor (bs.map fun b => Char.ofNat b.toNat)
  'b' :: q :: (bs.flatMap (encodeByte q) ++ [q])

def quote (s : String) : String := String.ofList (quoted s.toList)

def quoteBytes (bs : List UInt8) : String := String.ofList (quotedBytes bs)

end FlowDouble.Text
