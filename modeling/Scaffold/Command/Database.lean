import Scaffold.Command.Outcome
import Scaffold.Project.Settings
import Scaffold.Sql.Policy

/-! # The database command

Statements for the database service: a migration that creates a table, which may be written where
the project keeps its migrations, and the row-level policies of a table.
-/

namespace Scaffold.Command

open Arguments

inductive Statement
  | createTable
  | policies
  deriving DecidableEq, Repr

namespace Statement

def all : List Statement := [createTable, policies]

def word : Statement → String
  | createTable => "create-table"
  | policies => "rls"

def topic : Statement → String
  | createTable => "Generate CREATE TABLE SQL"
  | policies => "Generate RLS policies"

def grammar (s : Statement) : Grammar where
  program := "saas supabase " ++ s.word
  options :=
    match s with
    | createTable =>
      [helpOption, ⟨["-c", "--columns"], .value "COLUMNS", "Column specification"⟩,
        ⟨["--write"], .flag,
          "Write a migration file into the Supabase migrations directory"⟩]
    | policies =>
      [helpOption,
        ⟨["-p", "--policy"], .value "POLICY",
          "Policy type: " ++ Text.commaList (Sql.Policy.all.map Sql.Policy.word)⟩,
        ⟨["-c", "--column"], .value "COLUMN", "User/team ID column"⟩]
  slots :=
    match s with
    | createTable => [{ name := "name", about := "Table name" }]
    | policies => [{ name := "table", about := "Table name" }]

end Statement

/-- The migration that creates a table. Settings matter only when it is to be written. -/
def createTablePlan (now : Moment) (d : Disk) (r : Reading) : Except Failure Plan := do
  let name := (r.word? "name").getD ""
  let text ← Sql.migration name (r.word? "--columns")
  if r.isSet "--write" then
    let project ← Project.ofDirectory d none
    let path := Project.migrationPath project name now
    return .write path.text text (project.map Project.root)
  else return .print text

def policiesPlan (r : Reading) : Except Failure Plan := do
  let policy := (r.word? "--policy").getD Sql.Policy.default.word
  let column := (r.word? "--column").getD Sql.Policy.defaultColumn
  return .print (← Sql.policies ((r.word? "table").getD "") policy column)

def databaseGrammar : Grammar where
  program := "saas supabase"
  about := "Generate Supabase SQL"
  options := [helpOption, debugOption]
  slots :=
    [{ name := "action"
       span := .command
       choices := Statement.all.map fun s => (s.word, s.topic) }]

/-- Arguments that neither the command nor its action has a place for are refused together. -/
def database (c : Context) (d : Disk) (arguments : List String) : Except Stop Job := do
  let outer ← databaseGrammar.readKnown arguments
  match Statement.all.find? fun s => outer.word? "action" = some s.word with
  | none => throw (.problem databaseGrammar (.unfilled ["action"]))
  | some s =>
    let r ← s.grammar.readKnown (((outer.words? "action").getD []).drop 1)
    let _ ← databaseGrammar.settle { outer with strangers := outer.strangers ++ r.strangers }
    let plan :=
      match s with
      | .createTable => createTablePlan c.now d r
      | .policies => policiesPlan r
    return ⟨c.debug || outer.isSet "--debug", plan⟩

end Scaffold.Command
