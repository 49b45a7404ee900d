/-! # Shortest decimals

A double is a number m · 2^q, and the reals that round to it form an interval around it. The
shortest decimal of a double is the one with the fewest digits in that interval; of two with the
same number of digits the nearer one is taken, and of two equally near ones the even one.
-/

namespace Scaffold

/-- The number `digits · 10 ^ exponent`. -/
structure Decimal where
  digits : Nat
  exponent : Int
  deriving DecidableEq, Repr

namespace Decimal

/-- A positive fraction with the bounds of its rounding interval, all over `den`. -/
structure Interval where
  low : Nat
  mid : Nat
  high : Nat
  den : Nat
  closed : Bool

/-- The interval of the double `m · 2 ^ q`; below a power of two the doubles are twice as dense. -/
def Interval.ofBinary (m : Nat) (q : Int) (dense : Bool) : Interval :=
  let scale := Nat.pow 2 (q - 2).toNat
  { low := (4 * m - if dense then 1 else 2) * scale
    mid := 4 * m * scale
    high := (4 * m + 2) * scale
    den := Nat.pow 2 (2 - q).toNat
    closed := m % 2 == 0 }

/-- The fraction `num / den` multiplied by `10 ^ (-e)`, as a numerator and a denominator. -/
def scaled (num den : Nat) (e : Int) : Nat × Nat :=
  (num * Nat.pow 10 (-e).toNat, den * Nat.pow 10 e.toNat)

namespace Interval

def contains (i : Interval) (d : Decimal) : Bool :=
  let above := d.digits * Nat.pow 10 d.exponent.toNat * i.den
  let unit := Nat.pow 10 (-d.exponent).toNat
  if i.closed then decide (i.low * unit ≤ above) && decide (above ≤ i.high * unit)
  else decide (i.low * unit < above) && decide (above < i.high * unit)

/-- The decimals next to the middle of the interval on the grid of step `10 ^ e`, nearer first. -/
def neighbours (i : Interval) (e : Int) : List Decimal :=
  let (num, den) := scaled i.mid i.den e
  let below := num / den
  let rest := num % den
  let down : Decimal := ⟨below, e⟩
  let up : Decimal := ⟨below + 1, e⟩
  if 2 * rest < den || (2 * rest == den && below % 2 == 0) then [down, up] else [up, down]

/-- The exponent of the leading decimal digit of the middle. -/
def magnitude (i : Interval) : Int :=
  if i.den ≤ i.mid then ((Nat.toDigits 10 (i.mid / i.den)).length : Int) - 1
  else
    match (List.range 400).find? fun t => decide (i.den ≤ i.mid * Nat.pow 10 t) with
    | some t => -(t : Int)
    | none => -400

def shortest (i : Interval) : Decimal :=
  let top := i.magnitude
  let candidates := (List.range 17).flatMap fun (k : Nat) => i.neighbours (top - k)
  match candidates.find? i.contains with
  | some d => d
  | none => ⟨i.mid / i.den, 0⟩

end Interval

/-- How a decimal is written: positionally while its leading digit has an exponent from
`smallest` up to and without `largest`, otherwise with an exponent of at least two digits. -/
structure Layout where
  smallest : Int
  largest : Int

/-- The digits of a number without the zeros at their end, and the number of those zeros. -/
def significant (n : Nat) : List Char × Nat :=
  let cs := Nat.toDigits 10 n
  let zeros := (cs.reverse.takeWhile (· == '0')).length
  (cs.take (cs.length - zeros), zeros)

def Layout.write (l : Layout) (d : Decimal) : List Char :=
  let (cs, zeros) := significant d.digits
  let point : Int := cs.length + zeros + d.exponent
  let leading := point - 1
  if l.smallest ≤ leading ∧ leading < l.largest then
    if point ≤ 0 then '0' :: '.' :: List.replicate (-point).toNat '0' ++ cs
    else if (cs.length : Int) ≤ point then
      cs ++ List.replicate (point - cs.length).toNat '0' ++ ['.', '0']
    else cs.take point.toNat ++ '.' :: cs.drop point.toNat
  else
    let mantissa := match cs with
      | [] => []
      | [c] => [c]
      | c :: rest => c :: '.' :: rest
    let size := Nat.toDigits 10 leading.natAbs
    mantissa ++ ['e', if leading < 0 then '-' else '+'] ++
      (if size.length < 2 then '0' :: size else size)

/-- Numbers are written positionally from a ten-thousandth up to sixteen digits. -/
def layout : Layout := ⟨-4, 16⟩

/-- The shortest text that reads back as the double. -/
def floatText (x : Float) : String :=
  let bits := x.toBits.toNat
  let fraction := bits % Nat.pow 2 52
  let biased := bits / Nat.pow 2 52 % Nat.pow 2 11
  let negative := bits / Nat.pow 2 63 == 1
  let body : List Char :=
    if biased == 2047 then (if fraction == 0 then ['i', 'n', 'f'] else ['n', 'a', 'n'])
    else if biased == 0 && fraction == 0 then ['0', '.', '0']
    else
      let m := if biased == 0 then fraction else fraction + Nat.pow 2 52
      let q : Int := (max biased 1 : Nat) - 1075
      layout.write (Interval.ofBinary m q (fraction == 0 && decide (1 < biased))).shortest
  String.ofList (if negative && !(biased == 2047 && fraction != 0) then '-' :: body else body)

end Decimal

end Scaffold
