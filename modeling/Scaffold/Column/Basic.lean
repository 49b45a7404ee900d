import Scaffold.Column.Literal
import Scaffold.Name.Grammar

/-! # Columns

A column of a table: its name and kind, and what its modifiers say about it.
-/

namespace Scaffold

/-- The column of another table that a column refers to. -/
structure Column.Reference where
  table : Option String
  column : Option String
  deriving DecidableEq, Repr

structure Column where
  name : String
  kind : Column.Kind
  primaryKey : Bool := false
  autoIncrement : Bool := false
  nullable : Bool := false
  reference : Option Column.Reference := none
  defaultValue : Option String := none
  deriving DecidableEq, Repr

namespace Column

/-- The column that a reference means when it names only a table. -/
def Reference.defaultColumn : String := "id"

/-- The table and column of a reference that names a table. -/
def Reference.target? (r : Reference) : Option (String × String) :=
  match r.table with
  | none | some "" => none
  | some table =>
    match r.column with
    | none | some "" => some (table, defaultColumn)
    | some column => some (table, column)

/-- The meaning of the column's default. -/
def literal? (c : Column) : Option Literal := c.defaultValue.map (Literal.ofDefault · c.kind)

/-- A name in the style of its place, an identifier before and after the respelling. -/
def checkedName (role : String) (style : String → String) (name : String) :
    Except Failure String := do
  Name.checkIdentifier name role
  Name.checkIdentifier (style name) role
  return style name

end Column

end Scaffold
