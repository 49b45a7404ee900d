import Scaffold.Text.Digit

/-! # Reading numbers

Digit strings as natural numbers in a base, and decimal fractions as the nearest double.
-/

namespace Scaffold.Decimal

/-- The number written by digits of a base; `none` if one is not a digit or there is none. -/
def natOfDigits? (base : Nat) (cs : List Char) : Option Nat :=
  if cs.isEmpty then none
  else cs.foldlM (fun n c =>
    match (Text.hexValue? c).or (Text.digitValue? c) with
    | some d => if d < base then some (n * base + d) else none
    | none => none) 0

/-- The double nearest to `digits · 10 ^ exponent`. -/
def toFloat (digits : Nat) (exponent : Int) : Float :=
  let size : Int := (Nat.toDigits 10 digits).length
  if digits = 0 || size + exponent < -330 then 0
  else if 310 < size + exponent then 1 / 0
  else if exponent < 0 then Float.ofScientific digits true exponent.natAbs
  else Float.ofScientific digits false exponent.natAbs

/-- An optional sign and what follows it. -/
def signed : List Char → Bool × List Char
  | '-' :: cs => (true, cs)
  | '+' :: cs => (false, cs)
  | cs => (false, cs)

/-- A decimal fraction: digits with at most one point, at least one digit, and an exponent. -/
def float? (cs : List Char) : Option Float := do
  let (negative, cs) := signed cs
  let (mantissa, tail) := cs.span fun c => c != 'e' && c != 'E'
  let (whole, rest) := mantissa.span (· != '.')
  let part := rest.drop 1
  let digits ← natOfDigits? 10 (whole ++ part)
  let exponent ← match tail with
    | [] => some 0
    | _ :: e =>
      let (down, e) := signed e
      (natOfDigits? 10 e).map fun n => if down then -(n : Int) else n
  let x := toFloat digits (exponent - part.length)
  some (if negative then -x else x)

end Scaffold.Decimal
