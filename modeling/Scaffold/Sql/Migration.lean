import Scaffold.Column.Reading
import Scaffold.Sql.Table
import Scaffold.Template.Render

/-! # Table migrations

A migration creates a table and turns row-level security on for it.
-/

namespace Scaffold.Sql

def migrationTemplate : Packaged where
  category := "supabase"
  name := "create_table.sql"
  body :=
    .text "-- Migration: create_" <|
    .emit (.var "table") <|
    .text "_table\n" <|
    .emit (.var "create_sql") <|
    .text "\n\n-- Enable RLS\nALTER TABLE " <|
    .emit (.var "table") <|
    .text " ENABLE ROW LEVEL SECURITY;\n" <|
    .done

/-- The migration that creates a table with the columns of a column line. -/
def migration (name : String) (columns : Option String) : Except Failure String := do
  match columns with
  | none | some "" => throw (.complaint (.missing .migrationColumns))
  | some line =>
    let create ← createTable name (← Column.parse line)
    migrationTemplate.render [("table", .text (Name.snake name)), ("create_sql", .text create)]

/-- The file of a migration: its time, then what it creates, so that names sort by time. -/
def migrationFile (name : String) (now : Moment) : String :=
  now.stamp ++ "_create_" ++ Name.snake name ++ "_table.sql"

end Scaffold.Sql
