import Scaffold.Column.Kind
import Scaffold.Text.Split

/-! # Default values

The default of a column is a text whose meaning depends on the kind of the column: the current
time, a truth value, a number, or a string. Each meaning has a spelling in SQL and one in Dart.
-/

namespace Scaffold.Column

inductive Literal
  | now
  | truth (b : Bool)
  | number (text : String)
  | string (text : String)
  deriving DecidableEq, Repr

namespace Literal

def nowTokens : List String := ["now", "now()"]

/-- What the default `value` of a column of kind `k` means. -/
def ofDefault (value : String) (k : Kind) : Literal :=
  if nowTokens.contains value then now
  else if k = .boolean then truth (Text.lower value.toList == "true".toList)
  else if k.isNumeric then number value
  else string value

def truthWord (b : Bool) : String := if b then "true" else "false"

/-- In SQL a quote inside a string is written twice. -/
def sql : Literal → String
  | now => "now()"
  | truth b => truthWord b
  | number text => text
  | string text => "'" ++ String.ofList (Text.replace '\'' ['\'', '\''] text.toList) ++ "'"

/-- In Dart a quote inside a string is written after a backslash. -/
def dart : Literal → String
  | now => "currentDateAndTime"
  | truth b => "const Constant(" ++ truthWord b ++ ")"
  | number text => "const Constant(" ++ text ++ ")"
  | string text =>
    "const Constant('" ++ String.ofList (Text.replace '\'' ['\\', '\''] text.toList) ++ "')"

end Literal

end Scaffold.Column
