import Scaffold.Command.Database
import Scaffold.Command.Generate

/-! # Running a command line

The first argument chooses a command, and what follows is for that command.
-/

namespace Scaffold.Command

open Arguments

inductive Group
  | generate
  | database
  deriving DecidableEq, Repr

namespace Group

def all : List Group := [generate, database]

def word : Group → String
  | generate => "gen"
  | database => "supabase"

def topic : Group → String
  | generate => "Generate Flutter/Dart boilerplate code"
  | database => "Generate Supabase table migrations and RLS policies"

end Group

def version : String := "0.1.0"

/-- What is shown when no command is chosen. -/
def overview : String :=
  let lines :=
    ["",
      "Unified CLI for the saas code generators.",
      "",
      "Usage:",
      "    saas <command> [options]",
      "    python -m saas_tools <command> [options]",
      "",
      "Commands:",
      "    gen         Generate Flutter/Dart boilerplate (drift, riverpod, freezed, ...)",
      "    supabase    Generate Supabase table migrations and RLS policies",
      "",
      "Examples:",
      "    saas gen drift table Items --columns \"id:int:pk:autoincrement,title:text\"",
      "    saas gen riverpod async-notifier TodoList --state \"List<Todo>\"",
      "    saas gen powersync rules todos --user-column owner_id",
      "    saas supabase create-table recipes --columns \"id:uuid:pk,title:text\"",
      "    saas supabase rls recipes --policy user-owned --column user_id",
      "",
      "Available commands:"]
    ++ topicLines (Group.all.map fun g => (g.word, g.topic))
    ++ ["", "Use '<command> --help' for command-specific options."]
  String.join (lines.map (· ++ "\n"))

def unknownCommand (word : String) : Outcome where
  ending := .exit ExitCode.usage.toNat
  stderr := s!"Unknown command: {word}\n" ++
    s!"Available commands: {Text.commaList (Group.all.map Group.word)}\n"

/-- The job that a command line asks for, or the outcome when there is none to do. -/
def job (c : Context) (d : Disk) (arguments : List String) : Except Outcome Job :=
  match arguments with
  | [] => .error (.success overview)
  | first :: rest =>
    if first ∈ ["-h", "--help"] then .error (.success overview)
    else if first ∈ ["-V", "--version"] then .error (.success (version ++ "\n"))
    else
      match Group.all.find? fun g => g.word = first with
      | none => .error (unknownCommand first)
      | some .generate => (generate c rest).mapError (Outcome.ofStop · d.host.code)
      | some .database => (database c d rest).mapError (Outcome.ofStop · d.host.code)

/-- Runs a command line on a disk, up to printing. -/
def run (c : Context) (arguments : List String) (d : Disk) : Outcome × Disk :=
  match job c d arguments with
  | .error outcome => (outcome, d)
  | .ok j => j.run d

/-- Runs a command line on a disk, with a stream to print to. -/
def execute (stdout : Text.Charset) (c : Context) (arguments : List String) (d : Disk) :
    Outcome × Disk :=
  let (outcome, after) := run c arguments d
  (outcome.printed stdout d.host.standIns, after)

end Scaffold.Command
