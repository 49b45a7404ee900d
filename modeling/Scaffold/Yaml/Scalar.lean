import Scaffold.Decimal.Reading
import Scaffold.Text.Blank
import Scaffold.Value
import Scaffold.Yaml.Implicit

/-! # Scalar values

What a scalar stands for under each tag. A text that does not say what its tag asks for is a fault,
except for binary data, where it makes the document malformed.
-/

namespace Scaffold.Yaml

namespace Scalar

def withoutBars (cs : List Char) : List Char := cs.filter (· != '_')

/-- The letter that may follow a zero in front of the digits of a base. -/
def baseLetter? (base : Nat) : Option Char :=
  if base = 2 then some 'b' else if base = 8 then some 'o' else if base = 16 then some 'x' else none

/-- The digits after a zero and the letter of the base, if they are there. -/
def dropBase (base : Nat) (cs : List Char) : List Char :=
  match cs with
  | '0' :: c :: rest => if baseLetter? base = some (c.toLower) then rest else cs
  | _ => cs

/-- A character as numbers are read: digits and blanks of other scripts are taken for those of
ASCII, and everything else of them for a question mark. -/
def plainChar (c : Char) : Char :=
  if c.toNat < 0x7F then c
  else if Text.isBlank c then ' '
  else
    match Text.digitValue? c with
    | some d => Nat.digitChar d
    | none => '?'

/-- A blank that may stand around a number. -/
def isMargin (c : Char) : Bool := c == ' ' || ('\t' ≤ c && c ≤ '\r')

def dropMargins (cs : List Char) : List Char :=
  ((cs.dropWhile isMargin).reverse.dropWhile isMargin).reverse

/-- A whole number in a base, with blanks around it and a sign. Of decimal digits there may be only
so many, whatever follows them. -/
def wholeIn (base : Nat) (cs : List Char) : Except Fault Int :=
  let (negative, word) := Decimal.signed (dropMargins (cs.map plainChar))
  let leading := (word.takeWhile Implicit.isDecimal).length
  if base = 10 ∧ Text.maxDigits < leading then .error (.longDigits leading)
  else
    match Decimal.natOfDigits? base (dropBase base word) with
    | some n => .ok (if negative then -(n : Int) else n)
    | none => .error (.notANumber base (String.ofList cs))

/-- The number whose digits of base sixty stand between colons. -/
def sixties (cs : List Char) : Except Fault Int := do
  let digits ← (Text.split ':' cs).mapM (wholeIn 10)
  return digits.foldl (fun n d => n * 60 + d) 0

/-- A whole number without its sign. -/
def magnitude (cs : List Char) : Except Fault Int :=
  match cs with
  | [] => .error .emptyNumber
  | ['0'] => .ok 0
  | '0' :: 'b' :: ds => wholeIn 2 ds
  | '0' :: 'x' :: ds => wholeIn 16 ds
  | '0' :: _ => wholeIn 8 cs
  | _ => if cs.contains ':' then sixties cs else wholeIn 10 cs

def int (text : List Char) : Except Fault Int := do
  let (negative, cs) := Decimal.signed (withoutBars text)
  let n ← magnitude cs
  return if negative then -n else n

/-- A decimal fraction, infinity, or what is not a number, with blanks around it and a sign. -/
def real (cs : List Char) : Except Fault Float :=
  let (negative, word) := Decimal.signed (dropMargins (cs.map plainChar))
  let x? : Option Float :=
    if word = "inf".toList ∨ word = "infinity".toList then some (1 / 0)
    else if word = "nan".toList then some (0 / 0)
    else if word.head? = some '-' ∨ word.head? = some '+' then none
    else Decimal.float? word
  match x? with
  | some x => .ok (if negative then -x else x)
  | none => .error (.notAFloat (String.ofList cs))

/-- The most factors of sixty that a double can be multiplied with. -/
def maxSixties : Nat := 173

/-- Parts between colons, each counting sixty times as much as the next; the last is added first. -/
def realSixties (cs : List Char) : Except Fault Float := do
  let parts ← (Text.split ':' cs).mapM real
  if maxSixties + 1 < parts.length then throw .hugeFactor
  let add := fun (sum : Float × Nat) (part : Float) =>
    (sum.1 + part * Float.ofNat sum.2, sum.2 * 60)
  return (parts.reverse.foldl add (0, 1)).1

def float (text : List Char) : Except Fault Float := do
  let word := Text.lower (withoutBars text)
  if word.isEmpty then throw .emptyNumber
  let (negative, cs) := Decimal.signed word
  let x ←
    if cs = ".inf".toList then pure (1 / 0)
    else if cs = ".nan".toList then return 0 / 0
    else if cs.contains ':' then realSixties cs
    else real cs
  return if negative then -x else x

def truths : List (String × Bool) :=
  [("yes", true), ("no", false), ("true", true), ("false", false), ("on", true), ("off", false)]

def bool (text : List Char) : Except Fault Bool :=
  let word := String.ofList (Text.lower text)
  match truths.lookup word with
  | some b => .ok b
  | none => .error (.notATruth word)

/-- The value of a character in base sixty-four. -/
def sextet? (c : Char) : Option Nat :=
  if 'A' ≤ c ∧ c ≤ 'Z' then some (c.toNat - 'A'.toNat)
  else if 'a' ≤ c ∧ c ≤ 'z' then some (c.toNat - 'a'.toNat + 26)
  else if '0' ≤ c ∧ c ≤ '9' then some (c.toNat - '0'.toNat + 52)
  else if c = '+' then some 62
  else if c = '/' then some 63
  else none

/-- The bytes of a text in base sixty-four. A group of four characters makes three bytes; `place`
counts the characters of the group under way, `bits` are those not yet written, and `pads` counts
the padding signs since the last character. All other characters are passed over. -/
def bytesFrom (place bits pads : Nat) : List Char → Option (List UInt8)
  | [] => if place = 0 then some [] else none
  | c :: cs =>
    if c = '=' then
      if 2 ≤ place then
        if 4 ≤ place + pads + 1 then some [] else bytesFrom place bits (pads + 1) cs
      else bytesFrom place bits pads cs
    else
      match sextet? c with
      | none => bytesFrom place bits pads cs
      | some n =>
        match place with
        | 0 => bytesFrom 1 n 0 cs
        | 1 => (bytesFrom 2 (n % 16) 0 cs).map (UInt8.ofNat (bits * 4 + n / 16) :: ·)
        | 2 => (bytesFrom 3 (n % 4) 0 cs).map (UInt8.ofNat (bits * 16 + n / 4) :: ·)
        | _ => (bytesFrom 0 0 0 cs).map (UInt8.ofNat (bits * 64 + n) :: ·)

def binary (text : List Char) : Except Trouble (List UInt8) :=
  if text.any fun c => 128 ≤ c.toNat then .error .malformed
  else
    match bytesFrom 0 0 0 text with
    | some bs => .ok bs
    | none => .error .malformed

def number (cs : List Char) : Nat := (Decimal.natOfDigits? 10 cs).getD 0

/-- The digits after the point as millionths. -/
def micros (cs : List Char) : Nat :=
  number ((cs ++ List.replicate 6 '0').take 6)

/-- Seconds ahead of universal time. -/
def offset (zone : Option (Bool × List Char × List Char)) : Except CalendarError Int :=
  match zone with
  | none => .ok 0
  | some (behind, hours, minutes) =>
    let n : Int := number hours * 3600 + number minutes * 60
    Moment.checkOffset (if behind then -n else n)

def time (s : Stamp) : Except CalendarError Value :=
  let (year, month, day) := (number s.year, number s.month, number s.day)
  match s.time with
  | none => Value.date <$> Date.ofParts year month day
  | some (hour, minute, second, fraction) => do
    let zone ← s.zone.mapM offset
    Value.moment <$>
      Moment.ofParts year month day (number hour) (number minute) (number second)
        (micros fraction) zone

def timestamp (text : List Char) : Except Fault Value :=
  match Stamp.ofChars? text with
  | none => .error .notATimestamp
  | some s => (time s).mapError .calendar

/-- The value of a scalar under a tag; tags of collections and unknown ones have none. -/
def value (tag : Tag) (text : List Char) : Except Trouble Value :=
  match tag with
  | .null => .ok .null
  | .bool => (Value.bool <$> bool text).mapError .fault
  | .int => (Value.int <$> int text).mapError .fault
  | .float => (Value.float <$> float text).mapError .fault
  | .binary => Value.bytes <$> binary text
  | .timestamp => (timestamp text).mapError .fault
  | .str => .ok (.text (String.ofList text))
  | _ => .error .malformed

end Scalar

end Scaffold.Yaml
