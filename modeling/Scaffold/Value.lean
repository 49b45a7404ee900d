import Scaffold.Calendar
import Scaffold.Decimal.Shortest
import Scaffold.Text.Digit
import Scaffold.Text.Quoted

/-! # Values

The values that a settings file and the variables of a template can hold, and their two written
forms: the plain text of a value, and the shown form that it has inside a collection. What `code`
gives for a character is shown where it cannot be printed.
-/

namespace Scaffold

inductive Value where
  | null
  | bool (b : Bool)
  | int (n : Int)
  | float (x : Float)
  | text (s : String)
  | bytes (bs : List UInt8)
  | date (d : Date)
  | moment (t : Moment)
  | list (items : List Value)
  | map (entries : List (Value × Value))
  | set (members : List Value)
  | pairs (entries : List (Value × Value))
  /-- Stands for a list that holds itself, at the place where it would start over. -/
  | listAgain
  /-- Stands for a mapping that holds itself. -/
  | mapAgain
  deriving Inhabited

namespace Value

def shownMoment (t : Moment) : String :=
  let tail := if t.microsecond ≠ 0 then s!", {t.second}, {t.microsecond}"
    else if t.second ≠ 0 then s!", {t.second}" else ""
  let zone := match t.offset with
    | none => ""
    | some 0 => ", tzinfo=datetime.timezone.utc"
    | some o => s!", tzinfo=datetime.timezone({shownDuration o})"
  let d := t.date
  s!"datetime.datetime({d.year}, {d.month}, {d.day}, {t.hour}, {t.minute}{tail}{zone})"

section Shown

variable (code : Char → Nat)

mutual

/-- The form of a value inside a collection. -/
def shownBy : Value → String
  | null => "None"
  | bool b => if b then "True" else "False"
  | int n => toString n
  | float x => Decimal.floatText x
  | text s => Text.quote s code
  | bytes bs => String.ofList (Text.quotedBytes bs)
  | date d => s!"datetime.date({d.year}, {d.month}, {d.day})"
  | moment t => shownMoment t
  | list items => "[" ++ String.intercalate ", " (shownAll items) ++ "]"
  | map entries => "\x7b" ++ String.intercalate ", " (shownEntries ": " "" "" entries) ++ "\x7d"
  | set [] => "set()"
  | set members => "\x7b" ++ String.intercalate ", " (shownAll members) ++ "\x7d"
  | pairs entries => "[" ++ String.intercalate ", " (shownEntries ", " "(" ")" entries) ++ "]"
  | listAgain => "[...]"
  | mapAgain => "\x7b...\x7d"

def shownAll : List Value → List String
  | [] => []
  | v :: vs => shownBy v :: shownAll vs

def shownEntries (between left right : String) : List (Value × Value) → List String
  | [] => []
  | (k, v) :: rest =>
    (left ++ shownBy k ++ between ++ shownBy v ++ right) :: shownEntries between left right rest

end

end Shown

/-- The plain text of a value. -/
def display (v : Value) (code : Char → Nat := Char.toNat) : String :=
  match v with
  | text s => s
  | date d => d.text
  | moment t => t.text
  | v => v.shownBy code

mutual

/-- Whether no whole number in a value has too many digits to be written. -/
def isShort : Value → Bool
  | int n => (Nat.toDigits 10 n.natAbs).length ≤ Text.maxDigits
  | list items => allShort items
  | set members => allShort members
  | map entries | pairs entries => entriesShort entries
  | _ => true

def allShort : List Value → Bool
  | [] => true
  | v :: vs => isShort v && allShort vs

def entriesShort : List (Value × Value) → Bool
  | [] => true
  | (k, v) :: rest => isShort k && isShort v && entriesShort rest

end

def isNull : Value → Bool
  | null => true
  | _ => false

/-- Nothing, zero, the empty text and the empty collection count as absent. -/
def isTruthy : Value → Bool
  | null => false
  | bool b => b
  | int n => n != 0
  | float x => !(x == 0)
  | text s => s != ""
  | bytes bs => !bs.isEmpty
  | date _ | moment _ => true
  | list items => !items.isEmpty
  | map entries | pairs entries => !entries.isEmpty
  | set members => !members.isEmpty
  | listAgain | mapAgain => true

/-- The number that a value counts as when it is compared with other numbers. -/
def number? : Value → Option (Int ⊕ Float)
  | bool b => some (.inl (if b then 1 else 0))
  | int n => some (.inl n)
  | float x =>
    if x == x.floor && x.isFinite then some (.inl (floatToInt x)) else some (.inr x)
  | _ => none
where
  /-- A whole double as an integer. -/
  floatToInt (x : Float) : Int :=
    let bits := x.toBits.toNat
    let exponent := bits / Nat.pow 2 52 % Nat.pow 2 11
    if exponent = 0 then 0
    else
      let m := bits % Nat.pow 2 52 + Nat.pow 2 52
      let n : Nat :=
        if 1075 ≤ exponent then m * Nat.pow 2 (exponent - 1075)
        else m / Nat.pow 2 (1075 - exponent)
      if bits / Nat.pow 2 63 = 1 then -(n : Int) else n

/-- Whether two values are one key of a mapping. Numbers are compared by value, whatever their
kind, and what is not a number is one key with itself. -/
def sameKey : Value → Value → Bool
  | null, null => true
  | text s, text t => s == t
  | bytes a, bytes b => a == b
  | date a, date b => a == b
  | moment a, moment b => a.isSame b
  | a, b =>
    match a.number?, b.number? with
    | some (.inl m), some (.inl n) => m == n
    | some (.inr x), some (.inr y) => x.toBits == y.toBits
    | _, _ => false

/-- A mapping with one more entry: a key that is there already keeps its place and takes the new
value. -/
def put (k v : Value) : List (Value × Value) → List (Value × Value)
  | [] => [(k, v)]
  | (k', v') :: rest => if sameKey k' k then (k', v) :: rest else (k', v') :: put k v rest

/-- The value of a text key. -/
def field? (key : String) : Value → Option Value
  | map entries => (entries.find? fun e => sameKey e.1 (text key)).map (·.2)
  | _ => none

end Value

end Scaffold
