import Scaffold.Command.Outcome
import Scaffold.Drift.Access
import Scaffold.Model
import Scaffold.Provider
import Scaffold.Repository
import Scaffold.Route
import Scaffold.Sync

/-! # The generate command

Each generator has arguments of its own. All of them print their text, or write it to the file that
is named for it.
-/

namespace Scaffold.Command

open Arguments

inductive Generator
  | provider
  | drift
  | route
  | sync
  | model
  | repository
  deriving DecidableEq, Repr

namespace Generator

def all : List Generator := [provider, drift, route, sync, model, repository]

def word : Generator → String
  | provider => "riverpod"
  | drift => "drift"
  | route => "gorouter"
  | sync => "powersync"
  | model => "freezed"
  | repository => "repository"

/-- What a generator makes, in the list of generators. -/
def topic : Generator → String
  | provider => "Generate Riverpod providers"
  | drift => "Generate Drift tables, DAOs and migrations"
  | route => "Generate GoRouter routes"
  | sync => "Generate PowerSync sync rules and schemas"
  | model => "Generate Freezed models"
  | repository => "Generate repository pattern"

def about : Generator → String
  | drift => "Generate Drift database code"
  | sync => "Generate PowerSync sync rules"
  | g => g.topic

def slots : Generator → List Slot
  | provider =>
    [{ name := "pattern"
       about := "Pattern: " ++ Text.commaList (Provider.Pattern.all.map Provider.Pattern.word) },
      { name := "name", about := "Provider name" }]
  | drift =>
    [{ name := "type"
       about := "What to generate: " ++ Text.commaList (Drift.Kind.all.map Drift.Kind.word) },
      { name := "name", about := "Table, DAO or migration name" }]
  | route => [{ name := "name", about := "Route name" }]
  | sync =>
    [{ name := "type"
       about := "What to generate: " ++ Text.commaList (Sync.Kind.all.map Sync.Kind.word) },
      { name := "table", about := "Table name" }]
  | model => [{ name := "name", about := "Model name" }]
  | repository => [{ name := "name", about := "Repository name" }]

def ownOptions : Generator → List Opt
  | provider => [⟨["-s", "--state"], .value "STATE", "State type (e.g., \"List<User>\")"⟩]
  | drift =>
    [⟨["-c", "--columns"], .value "COLUMNS",
      "Column specification (for table), e.g. 'id:int:pk,title:text'"⟩]
  | route =>
    [⟨["-p", "--path"], .value "PATH", "Route path (e.g., /recipe/:id)"⟩,
      ⟨["--params"], .value "PARAMS", "Path parameters (e.g., id:String,page:int)"⟩]
  | sync => [⟨["-u", "--user-column"], .value "USER_COLUMN", "User ID column for sync rules"⟩]
  | model =>
    [⟨["-f", "--fields"], .value "FIELDS",
      "Field specification (e.g., id:String,name:String,email:String?)"⟩]
  | repository => [⟨["-e", "--entity"], .value "ENTITY", "Entity name"⟩]

def outputOption : Opt :=
  ⟨["-o", "--output"], .value "OUTPUT", "Output file path, relative to the current directory"⟩

def grammar (g : Generator) : Grammar where
  program := "saas gen " ++ g.word
  about := g.about
  options := helpOption :: g.ownOptions ++ [outputOption, debugOption]
  slots := g.slots

/-- The generated text. -/
def text (g : Generator) (today : Date) (r : Reading) : Except Failure String :=
  let word (slot : String) : String := (r.word? slot).getD ""
  match g with
  | provider =>
    refuseBlank (r.isBlank "name") ["provider name"]
      (Provider.generate (word "pattern") (word "name") (r.word? "--state"))
  | drift =>
    refuseBlank (r.isBlank "name") ["table name", "DAO name", "migration name"]
      (Drift.generate today (word "type") (word "name") (r.word? "--columns"))
  | route => Route.generate (word "name") (r.word? "--path") (r.word? "--params")
  | sync =>
    refuseBlank (r.isBlank "table") ["table name"]
      (Sync.generate (word "type") (word "table") (r.word? "--user-column"))
  | model => Model.generate (word "name") (r.word? "--fields")
  | repository => Repository.generate (word "name") (r.word? "--entity")

/-- What is printed of a text: one more line end after code for the local database. -/
def printed (g : Generator) (text : String) : String :=
  match g with
  | drift => text ++ "\n"
  | _ => text

def plan (g : Generator) (today : Date) (r : Reading) : Except Failure Plan := do
  let text ← g.text today r
  match r.word? "--output" with
  | some path => return .write (Path.ofString path).text text none
  | none => return .print (g.printed text)

end Generator

/-- The arguments of the command: a generator, and all that is for it. -/
def generateGrammar : Grammar where
  program := "saas gen"
  about := "Generate boilerplate code for Flutter/Dart patterns"
  options := [helpOption]
  slots :=
    [{ name := "generator"
       about := "Which generator to run"
       choices := Generator.all.map fun g => (g.word, g.topic) },
      { name := "extra_args", about := "Arguments for the generator", span := .rest }]
  topics := Generator.all.map fun g => (g.word, g.topic)

def generate (c : Context) (arguments : List String) : Except Stop Job := do
  let outer ← generateGrammar.read arguments
  match Generator.all.find? fun g => outer.word? "generator" = some g.word with
  | none => throw (.problem generateGrammar (.unfilled ["generator"]))
  | some g =>
    let r ← g.grammar.read ((outer.words? "extra_args").getD [])
    return ⟨c.debug || r.isSet "--debug", g.plan c.now.date r⟩

end Scaffold.Command
