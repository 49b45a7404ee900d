import Scaffold.Column.Basic
import Scaffold.Name.Style

/-! # CREATE TABLE statements

A table is written in SQL as one definition per column. Names are spelled in small letters with
underscores; every name is an identifier before and after that.
-/

namespace Scaffold.Sql

/-- How the values of a column are stored, or made when the table makes its own keys. -/
inductive Storage
  | kind (k : Column.Kind)
  | serial
  | generatedUuid
  deriving DecidableEq, Repr

structure Definition where
  name : String
  storage : Storage
  primaryKey : Bool
  notNull : Bool
  default : Option Column.Literal
  references : Option (String × String)
  deriving DecidableEq, Repr

structure Table where
  name : String
  definitions : List Definition
  deriving DecidableEq, Repr

namespace Storage

def text : Storage → String
  | kind k => k.sqlName
  | serial => "SERIAL"
  | generatedUuid => "UUID DEFAULT gen_random_uuid()"

end Storage

namespace Definition

/-- A key takes no default and is never null; a key that counts by itself makes its values. -/
def ofColumn (c : Column) : Except Failure Definition := do
  let name ← Column.checkedName "column name" Name.snake c.name
  return {
    name
    storage :=
      if c.primaryKey && c.autoIncrement then
        if c.kind = .uuid then .generatedUuid else .serial
      else .kind c.kind
    primaryKey := c.primaryKey
    notNull := !c.primaryKey && !c.nullable
    default := if c.primaryKey then none else c.literal?
    references := c.reference.bind (·.target?) }

/-- The words after the storage, each with a blank in front. -/
def tail (d : Definition) : String :=
  (if d.primaryKey then " PRIMARY KEY" else "") ++
  (if d.notNull then " NOT NULL" else "") ++
  (match d.default with
    | some l => " DEFAULT " ++ l.sql
    | none => "") ++
  (match d.references with
    | some (table, column) => " REFERENCES " ++ table ++ "(" ++ column ++ ") ON DELETE CASCADE"
    | none => "")

def text (d : Definition) : String := "  " ++ d.name ++ " " ++ d.storage.text ++ d.tail

end Definition

namespace Table

/-- The table is checked before its columns, and these in order. -/
def ofColumns (name : String) (columns : List Column) : Except Failure Table := do
  let name ← Column.checkedName "table name" Name.snake name
  return ⟨name, ← columns.mapM Definition.ofColumn⟩

def text (t : Table) : String :=
  "CREATE TABLE " ++ t.name ++ " (\n" ++
    String.intercalate ",\n" (t.definitions.map (·.text)) ++ "\n);"

end Table

/-- The CREATE TABLE statement of a table with these columns. -/
def createTable (name : String) (columns : List Column) : Except Failure String :=
  Table.text <$> Table.ofColumns name columns

end Scaffold.Sql
