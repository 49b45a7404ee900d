import Scaffold.Text.Printable

/-! # Quoted texts

A text is shown between single quotes, or between double quotes when it holds a single quote and
no double one. The quote, the backslash and what cannot be printed are written as escapes, by the
code of the character, which is that of a surrogate if the character stands for one.
-/

namespace Scaffold.Text

def hexDigit (n : Nat) : Char := (Nat.digitChar n)

/-- The lowest `width` hexadecimal digits of a number. -/
def hex : Nat → Nat → List Char
  | 0, _ => []
  | width + 1, n => hex width (n / 16) ++ [hexDigit (n % 16)]

def quoteFor (cs : List Char) : Char :=
  if cs.contains '\'' && !cs.contains '"' then '"' else '\''

def escapeChar (quote c : Char) (code : Char → Nat := Char.toNat) : List Char :=
  let n := code c
  if c = quote || c = '\\' then ['\\', c]
  else if c = '\n' then ['\\', 'n']
  else if c = '\r' then ['\\', 'r']
  else if c = '\t' then ['\\', 't']
  else if isPrintable c then [c]
  else if n < 0x100 then '\\' :: 'x' :: hex 2 n
  else if n < 0x10000 then '\\' :: 'u' :: hex 4 n
  else '\\' :: 'U' :: hex 8 n

def quoted (cs : List Char) (code : Char → Nat := Char.toNat) : List Char :=
  quoteFor cs :: cs.flatMap (escapeChar (quoteFor cs) · code) ++ [quoteFor cs]

def quote (s : String) (code : Char → Nat := Char.toNat) : String :=
  String.ofList (quoted s.toList code)

/-- Bytes are shown like a text of their own, marked with `b`; only ASCII is printed as it is. -/
def quotedBytes (bs : List UInt8) : List Char :=
  let cs := bs.map fun b => Char.ofNat b.toNat
  let escape (c : Char) : List Char :=
    if c.toNat < 0x7F then escapeChar (quoteFor cs) c else '\\' :: 'x' :: hex 2 c.toNat
  'b' :: quoteFor cs :: cs.flatMap escape ++ [quoteFor cs]

end Scaffold.Text
