/-! # Dates and times

Days of the proleptic calendar in the years 1 to 9999, and moments of a day to the microsecond.
A moment may carry its distance from universal time.
-/

namespace Scaffold

/-- Why numbers do not name a day or a time of day. -/
inductive CalendarError
  | year (n : Int)
  | month
  | day
  | hour
  | minute
  | second
  | microsecond
  | offset (seconds : Int)
  deriving DecidableEq, Repr

structure Date where
  year : Nat
  month : Nat
  day : Nat
  deriving DecidableEq, Repr

structure Moment where
  date : Date
  hour : Nat := 0
  minute : Nat := 0
  second : Nat := 0
  microsecond : Nat := 0
  /-- Seconds ahead of universal time. -/
  offset : Option Int := none
  deriving DecidableEq, Repr

/-- A number in decimal with zeros in front up to `width` digits. -/
def padded (width n : Nat) : String :=
  let cs := Nat.toDigits 10 n
  String.ofList (List.replicate (width - cs.length) '0' ++ cs)

def isLeap (year : Nat) : Bool := year % 4 == 0 && (year % 100 != 0 || year % 400 == 0)

def daysIn (year : Nat) : Nat → Nat
  | 2 => if isLeap year then 29 else 28
  | 4 | 6 | 9 | 11 => 30
  | _ => 31

namespace Date

def ofParts (year month day : Int) : Except CalendarError Date :=
  if year < 1 ∨ 9999 < year then .error (.year year)
  else if month < 1 ∨ 12 < month then .error .month
  else if day < 1 ∨ daysIn year.toNat month.toNat < day then .error .day
  else .ok ⟨year.toNat, month.toNat, day.toNat⟩

/-- Year, month and day with dashes. -/
def text (d : Date) : String := s!"{padded 4 d.year}-{padded 2 d.month}-{padded 2 d.day}"

/-- The number of the day, counted from the first of the calendar. -/
def ordinal (d : Date) : Nat :=
  let years := d.year - 1
  let months := (List.range (d.month - 1)).foldl (fun days m => days + daysIn d.year (m + 1)) 0
  years * 365 + years / 4 - years / 100 + years / 400 + months + d.day

/-- The digits of a date; a year before 1000 keeps its own length. -/
def stamp (d : Date) : String := s!"{d.year}{padded 2 d.month}{padded 2 d.day}"

end Date

namespace Moment

/-- The parts are checked from the year to the microsecond; an offset stays within one day. -/
def ofParts (year month day hour minute second microsecond : Int) (offset : Option Int) :
    Except CalendarError Moment := do
  let date ← Date.ofParts year month day
  if hour < 0 ∨ 23 < hour then .error .hour
  else if minute < 0 ∨ 59 < minute then .error .minute
  else if second < 0 ∨ 59 < second then .error .second
  else if microsecond < 0 ∨ 999999 < microsecond then .error .microsecond
  else .ok ⟨date, hour.toNat, minute.toNat, second.toNat, microsecond.toNat, offset⟩

/-- Whether an offset can be carried by a moment. -/
def checkOffset (seconds : Int) : Except CalendarError Int :=
  if seconds.natAbs < 86400 then .ok seconds else .error (.offset seconds)

def offsetText (seconds : Int) : String :=
  let n := seconds.natAbs
  let tail := if n % 60 = 0 then "" else s!":{padded 2 (n % 60)}"
  let head := if seconds < 0 then "-" else "+"
  s!"{head}{padded 2 (n / 3600)}:{padded 2 (n / 60 % 60)}{tail}"

def text (t : Moment) : String :=
  let part := if t.microsecond = 0 then "" else s!".{padded 6 t.microsecond}"
  let zone := match t.offset with
    | some o => offsetText o
    | none => ""
  s!"{t.date.text} {padded 2 t.hour}:{padded 2 t.minute}:{padded 2 t.second}{part}{zone}"

/-- Whether two moments are one. Those that carry an offset are compared by universal time. -/
def isSame (t u : Moment) : Bool :=
  let seconds (t : Moment) : Int :=
    t.date.ordinal * 86400 + t.hour * 3600 + t.minute * 60 + t.second
  match t.offset, u.offset with
  | some o, some p => seconds t - o == seconds u - p && t.microsecond == u.microsecond
  | none, none => t == u
  | _, _ => false

/-- The digits of a moment down to the second. -/
def stamp (t : Moment) : String :=
  s!"{t.date.stamp}{padded 2 t.hour}{padded 2 t.minute}{padded 2 t.second}"

end Moment

/-- A length of time as days and the seconds of a day, as it is shown. -/
def shownDuration (seconds : Int) : String :=
  let days := Int.fdiv seconds 86400
  let rest := Int.fmod seconds 86400
  let parts := (if days = 0 then [] else [s!"days={days}"]) ++
    (if rest = 0 then [] else [s!"seconds={rest}"])
  let inner := if parts.isEmpty then "0" else String.intercalate ", " parts
  s!"datetime.timedelta({inner})"

namespace CalendarError

def message : CalendarError → String
  | year n => s!"year {n} is out of range"
  | month => "month must be in 1..12"
  | day => "day is out of range for month"
  | hour => "hour must be in 0..23"
  | minute => "minute must be in 0..59"
  | second => "second must be in 0..59"
  | microsecond => "microsecond must be in 0..999999"
  | offset seconds =>
    "offset must be a timedelta strictly between -timedelta(hours=24) and timedelta(hours=24), " ++
      s!"not {shownDuration seconds}."

end CalendarError

end Scaffold
