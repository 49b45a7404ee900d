import Scaffold.Column.Basic
import Scaffold.Name.Style

/-! # Client-side table classes

A table is declared on the client as a class with one getter per column. The class name starts
with a capital, the getters with a small letter.
-/

namespace Scaffold.Drift

structure Getter where
  name : String
  builder : String
  autoIncrement : Bool
  nullable : Bool
  default : Option Column.Literal
  deriving DecidableEq, Repr

structure Table where
  name : String
  getters : List Getter
  deriving DecidableEq, Repr

namespace Getter

def ofColumn (c : Column) : Except Failure Getter := do
  let name ← Column.checkedName "column name" Name.camel c.name
  return {
    name
    builder := c.kind.builder
    autoIncrement := c.primaryKey && c.autoIncrement
    nullable := c.nullable
    default := c.literal? }

/-- The calls that refine the builder. -/
def calls (g : Getter) : String :=
  (if g.autoIncrement then ".autoIncrement()" else "") ++
  (if g.nullable then ".nullable()" else "") ++
  (match g.default with
    | some l => ".withDefault(" ++ l.dart ++ ")"
    | none => "")

def text (g : Getter) : String :=
  "  " ++ g.builder ++ "Column get " ++ g.name ++ " => " ++ g.builder ++ "()" ++ g.calls ++ "();"

end Getter

namespace Table

def ofColumns (name : String) (columns : List Column) : Except Failure Table := do
  let name ← Column.checkedName "table name" Name.pascal name
  return ⟨name, ← columns.mapM Getter.ofColumn⟩

def text (t : Table) : String :=
  String.intercalate "\n"
    (("class " ++ t.name ++ " extends Table \x7b") :: t.getters.map (·.text) ++ ["\x7d"])

end Table

/-- The class that declares a table with these columns. -/
def tableClass (name : String) (columns : List Column) : Except Failure String :=
  Table.text <$> Table.ofColumns name columns

end Scaffold.Drift
