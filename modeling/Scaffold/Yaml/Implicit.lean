import Scaffold.Yaml.Graph
import Scaffold.Text.Split

/-! # Implicit tags

A plain scalar without a tag is null, a truth value, a number or a time if it is written like one,
and a text otherwise.
-/

namespace Scaffold.Yaml

namespace Implicit

def isDecimal (c : Char) : Bool := '0' ≤ c && c ≤ '9'

def isDecimalOrBar (c : Char) : Bool := isDecimal c || c == '_'

/-- The text without a sign at its start. -/
def unsigned : List Char → List Char
  | '-' :: cs | '+' :: cs => cs
  | cs => cs

/-- A text that is not empty and whose characters all satisfy `p`. -/
def allOf (p : Char → Bool) (cs : List Char) : Bool := !cs.isEmpty && cs.all p

/-- A decimal digit, then digits and bars. -/
def isWhole : List Char → Bool
  | [] => false
  | c :: cs => isDecimal c && cs.all isDecimalOrBar

/-- Like `isWhole`, without a zero in front. -/
def isCounting : List Char → Bool
  | [] => false
  | c :: cs => isDecimal c && c != '0' && cs.all isDecimalOrBar

/-- A number from 0 to 59, with or without a zero in front. -/
def isSixtieth : List Char → Bool
  | [a] => isDecimal a
  | [a, b] => '0' ≤ a && a ≤ '5' && isDecimal b
  | _ => false

/-- Parts between colons: a head and at least one number below sixty. -/
def isSexagesimal (isHead : List Char → Bool) (cs : List Char) : Bool :=
  match Text.split ':' cs with
  | head :: part :: parts => isHead head && (part :: parts).all isSixtieth
  | _ => false

def isInt (cs : List Char) : Bool :=
  match unsigned cs with
  | '0' :: 'b' :: ds => allOf (fun c => c == '0' || c == '1' || c == '_') ds
  | '0' :: 'x' :: ds =>
    allOf (fun c => isDecimalOrBar c || ('a' ≤ c && c ≤ 'f') || ('A' ≤ c && c ≤ 'F')) ds
  | '0' :: ds => ds.all fun c => ('0' ≤ c && c ≤ '7') || c == '_'
  | ds => isCounting ds || isSexagesimal isCounting ds

/-- An exponent with a sign, or nothing. -/
def isExponent : List Char → Bool
  | [] => true
  | e :: sign :: ds => (e == 'e' || e == 'E') && (sign == '-' || sign == '+') && allOf isDecimal ds
  | _ => false

/-- Digits and bars, then an exponent if there is one. -/
def isFraction (cs : List Char) : Bool := isExponent (cs.dropWhile isDecimalOrBar)

def isFloat (cs : List Char) : Bool :=
  let ds := unsigned cs
  let (head, tail) := Text.cut '.' ds
  match tail with
  | none => false
  | some tail =>
    (isWhole head && isFraction tail) ||
      (isSexagesimal isWhole head && tail.all isDecimalOrBar) ||
      (head.isEmpty &&
        ((["inf", "Inf", "INF"].map String.toList).contains tail ||
          (cs == ds && (((["nan", "NaN", "NAN"].map String.toList).contains tail) ||
            (tail.head?.any isDecimal && isFraction tail)))))

def truths : List String :=
  ["yes", "Yes", "YES", "no", "No", "NO", "true", "True", "TRUE", "false", "False", "FALSE",
    "on", "On", "ON", "off", "Off", "OFF"]

def nulls : List String := ["~", "null", "Null", "NULL", ""]

end Implicit

/-- The parts of a date or a time as they are written. -/
structure Stamp where
  year : List Char
  month : List Char
  day : List Char
  /-- Hour, minute, second and the digits after the point. -/
  time : Option (List Char × List Char × List Char × List Char)
  /-- Nothing, universal time, or a sign with hours and minutes. -/
  zone : Option (Option (Bool × List Char × List Char))

namespace Stamp

open Implicit

/-- The digits at the start of a text, of which there are from `least` to `most`. -/
def number? (least most : Nat) (cs : List Char) : Option (List Char × List Char) :=
  let ds := (cs.take most).takeWhile isDecimal
  if least ≤ ds.length then some (ds, cs.drop ds.length) else none

def sign? (c : Char) (cs : List Char) : Option (List Char) := Text.after? [c] cs

def isSpaceOrTab (c : Char) : Bool := c == ' ' || c == '\t'

/-- What stands between a date and a time. -/
def gap? : List Char → Option (List Char)
  | [] => none
  | c :: cs =>
    if c = 'T' ∨ c = 't' then some cs
    else if isSpaceOrTab c then some (cs.dropWhile isSpaceOrTab)
    else none

/-- A zone up to the end of the text. -/
def zone? (cs : List Char) : Option (Option (Option (Bool × List Char × List Char))) :=
  match cs.dropWhile isSpaceOrTab with
  | [] => if cs.isEmpty then some none else none
  | ['Z'] => some (some none)
  | c :: cs =>
    if c = '-' ∨ c = '+' then do
      let (hours, rest) ← number? 1 2 cs
      match rest with
      | [] => some (some (some (c == '-', hours, [])))
      | ':' :: rest =>
        let (minutes, rest) ← number? 2 2 rest
        if rest.isEmpty then some (some (some (c == '-', hours, minutes))) else none
      | _ => none
    else none

/-- The parts of a date, or of a date and a time, up to a line end at most. -/
def ofChars? (cs : List Char) : Option Stamp := do
  let cs := (Text.before? ['\n'] cs).getD cs
  let (year, cs) ← number? 4 4 cs
  let (month, cs) ← number? 1 2 (← sign? '-' cs)
  let (day, cs) ← number? 1 2 (← sign? '-' cs)
  if cs.isEmpty then return ⟨year, month, day, none, none⟩
  let (hour, cs) ← number? 1 2 (← gap? cs)
  let (minute, cs) ← number? 2 2 (← sign? ':' cs)
  let (second, cs) ← number? 2 2 (← sign? ':' cs)
  let (fraction, cs) :=
    match cs with
    | '.' :: rest => rest.span isDecimal
    | _ => ([], cs)
  return ⟨year, month, day, some (hour, minute, second, fraction), ← zone? cs⟩

/-- A date alone has two digits for month and day. -/
def isStrict (s : Stamp) : Bool :=
  s.time.isSome || (s.month.length == 2 && s.day.length == 2)

end Stamp

/-- The tag of a plain scalar; one line end at the end of its text does not count. -/
def Tag.ofPlain (text : List Char) : Tag :=
  let cs := (Text.before? ['\n'] text).getD text
  if cs = [] ∧ text ≠ [] then .str
  else if (Implicit.truths.map String.toList).contains cs then .bool
  else if Implicit.isFloat cs then .float
  else if Implicit.isInt cs then .int
  else if cs = ['<', '<'] then .merge
  else if (Implicit.nulls.map String.toList).contains cs then .null
  else if (Stamp.ofChars? text).any Stamp.isStrict then .timestamp
  else if cs = ['='] then .value
  else if [['!'], ['&'], ['*']].contains cs then .other
  else .str

end Scaffold.Yaml
