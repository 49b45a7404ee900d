import Scaffold.Text.Casing

/-! # Column kinds

A column holds one of nine kinds of data. A column line may call a kind by one of several names;
a name that is none of them is kept in small letters and stored as text.
-/

namespace Scaffold.Column

inductive Kind
  | integer
  | bigint
  | text
  | boolean
  | real
  | datetime
  | uuid
  | jsonb
  | blob
  | other (name : String)
  deriving DecidableEq, Repr

namespace Kind

def known : List Kind :=
  [integer, bigint, text, boolean, real, datetime, uuid, jsonb, blob]

def name : Kind → String
  | integer => "integer"
  | bigint => "bigint"
  | text => "text"
  | boolean => "boolean"
  | real => "real"
  | datetime => "datetime"
  | uuid => "uuid"
  | jsonb => "jsonb"
  | blob => "blob"
  | other name => name

/-- The names by which a column line may call a kind. -/
def aliases : List (String × Kind) :=
  [("str", text), ("string", text), ("varchar", text), ("char", text), ("text", text),
    ("int", integer), ("number", integer), ("integer", integer), ("bigint", bigint),
    ("float", real), ("double", real), ("decimal", real), ("real", real),
    ("bool", boolean), ("boolean", boolean),
    ("date", datetime), ("timestamp", datetime), ("timestamptz", datetime), ("time", datetime),
    ("datetime", datetime), ("uuid", uuid), ("json", jsonb), ("jsonb", jsonb),
    ("blob", blob), ("bytes", blob), ("binary", blob)]

/-- The kind that a column line calls by this name, in any case. -/
def ofAlias (s : String) : Kind :=
  let lowered := String.ofList (Text.lower s.toList)
  (aliases.lookup lowered).getD (other lowered)

def sqlName : Kind → String
  | integer => "INTEGER"
  | bigint => "BIGINT"
  | text => "TEXT"
  | boolean => "BOOLEAN"
  | real => "REAL"
  | datetime => "TIMESTAMPTZ"
  | uuid => "UUID"
  | jsonb => "JSONB"
  | blob => "BYTEA"
  | other _ => "TEXT"

/-- The builder that declares a column of this kind in a client-side table. -/
def builder : Kind → String
  | integer => "integer"
  | bigint => "int64"
  | text => "text"
  | boolean => "boolean"
  | real => "real"
  | datetime => "dateTime"
  | uuid => "text"
  | jsonb => "text"
  | blob => "blob"
  | other _ => "text"

/-- Kinds whose defaults are written without quotes. -/
def isNumeric : Kind → Bool
  | integer | bigint | real => true
  | _ => false

end Kind

end Scaffold.Column
