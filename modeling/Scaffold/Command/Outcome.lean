import Scaffold.Arguments.Help
import Scaffold.Arguments.Reading
import Scaffold.Files.Output
import Scaffold.Value

/-! # Outcomes of a command

A command first settles what it is going to do. Nothing is written before that, and a command writes
at most one file. Its outcome is what it prints and how it ends. Printing comes last, and it fails
if the text cannot be written in the encoding of the stream.
-/

namespace Scaffold.Command

open Arguments

/-- How a run ends. A fault is left to whoever started it. -/
inductive Ending
  | exit (code : Int)
  | fault (f : Fault)
  deriving DecidableEq, Repr

structure Outcome where
  ending : Ending
  stdout : String := ""
  stderr : String := ""
  deriving DecidableEq, Repr

/-- What a command does once its input is found right. -/
inductive Plan
  | print (text : String)
  | write (path text : String) (base : Option Path)
  deriving DecidableEq, Repr

/-- The plan of a command, if its input is right, and whether a complaint comes with a trace. -/
structure Job where
  trace : Bool
  plan : Except Failure Plan

/-- The surroundings of a run. -/
structure Context where
  /-- Traces are wanted for every command. -/
  debug : Bool
  now : Moment

/-- The surroundings at a moment. Traces are wanted if the variable for them has a value, which is
not empty. -/
def Context.ofVariable (value? : Option String) (now : Moment) : Context where
  debug := value?.getD "" != ""
  now := now

/-- Does what is planned, and gives what to print. -/
def Plan.carryOut : Plan → Action String
  | print text => return text
  | write path text base => do
    let written ← Output.write path ((← get).host.standIns.points text) base
    return s!"Generated {written.text}\n"

namespace Outcome

def success (stdout : String) : Outcome := ⟨.exit ExitCode.success.toNat, stdout, ""⟩

def ofFailure (trace : Bool) : Failure → Outcome
  | .fault f => { ending := .fault f }
  | .complaint c =>
    let n := c.notice
    { ending := .exit n.exitCode
      stderr := report n.format (if trace then some (n.message ++ "\n") else none) }

def ofStop (s : Stop) (code : Char → Nat := Char.toNat) : Outcome :=
  match s with
  | .help g => success g.help
  | .problem g p => { ending := .exit ExitCode.usage.toNat, stderr := g.refusal p code }

/-- The outcome once it is printed. -/
def printed (o : Outcome) (stdout : Text.Charset) (standIns : Text.StandIns) : Outcome :=
  match stdout.refusal? (standIns.points o.stdout) with
  | none => o
  | some e => { o with ending := .fault (.unencodable e), stdout := "" }

end Outcome

/-- Does a job on a disk. -/
def Job.run (j : Job) (d : Disk) : Outcome × Disk :=
  match j.plan with
  | .error f => (.ofFailure j.trace f, d)
  | .ok plan =>
    match (plan.carryOut.run d : Except Failure String × Disk) with
    | (.ok text, d) => (.success text, d)
    | (.error f, d) => (.ofFailure j.trace f, d)

/-- The exit code that a command asked for: numbers and truth values stand, nothing means success,
and anything else a failure. -/
def exitStatus : Value → Value
  | .null => .int ExitCode.success.toNat
  | .int n => .int n
  | .bool b => .bool b
  | _ => .int ExitCode.general.toNat

/-- A blank name is checked like an empty one, but it is refused for not being text. The complaints
about the name are told by `roles`. -/
def refuseBlank {α : Type} (blank : Bool) (roles : List String) (r : Except Failure α) :
    Except Failure α :=
  match blank, r with
  | true, .error (.complaint (.illFormed "" role _)) =>
    if roles.contains role then .error (Fault.notText "list") else r
  | _, _ => r

def helpOption : Opt := ⟨["-h", "--help"], .help, "show this help message and exit"⟩

def debugOption : Opt := ⟨["--debug"], .flag, "Show stack traces on failure"⟩

end Scaffold.Command
