/-! # Notices

What a user is told when a command fails: the message, the exit code, and lines that help. The
kind of a notice says which part of the input it is about.
-/

namespace Scaffold

/-- The exit codes of the command line. -/
inductive ExitCode
  | success
  | general
  | usage
  | settings
  | network
  | access
  deriving DecidableEq, Repr

namespace ExitCode

def toNat : ExitCode → Nat
  | success => 0
  | general => 1
  | usage => 2
  | settings => 3
  | network => 4
  | access => 5

end ExitCode

inductive NoticeKind
  | general
  | settings (path : Option String)
  | name (value role : String)
  | column (definition : String)
  | template (key : String)
  deriving DecidableEq, Repr

structure Notice where
  kind : NoticeKind
  message : String
  exitCode : Int
  hint : Option String
  seeAlso : Option String
  deriving DecidableEq, Repr

namespace Notice

def general (message : String) (exitCode : Int := ExitCode.general.toNat)
    (hint seeAlso : Option String := none) : Notice :=
  ⟨.general, message, exitCode, hint, seeAlso⟩

/-- A notice about a settings file names the file in front of the message. -/
def settings (message : String) (hint path : Option String := none) : Notice :=
  let message := match path with
    | none | some "" => message
    | some p => s!"[{p}] {message}"
  ⟨.settings path, message, ExitCode.settings.toNat, hint, none⟩

def name (value role : String) (hint : Option String := none) : Notice :=
  ⟨.name value role, s!"Invalid {role}: \"{value}\"", ExitCode.general.toNat, hint, none⟩

def column (message definition : String) (hint : Option String := none) : Notice :=
  ⟨.column definition, message, ExitCode.general.toNat, hint, none⟩

def template (key reason : String) : Notice :=
  ⟨.template key, s!"Template '{key}': {reason}", ExitCode.general.toNat,
    some "Reinstall the package or check the templates directory", none⟩

/-- The error line, and a line each for a hint and a reference that are given and not empty. -/
def lines (n : Notice) : List String :=
  let line (word : String) : Option String → List String
    | none | some "" => []
    | some text => [s!"{word}: {text}"]
  s!"Error: {n.message}" :: line "Hint" n.hint ++ line "See" n.seeAlso

def format (n : Notice) : String := String.intercalate "\n" n.lines

end Notice

/-- The report of an error, followed by a trace when one is asked for. -/
def report (text : String) (trace : Option String) : String :=
  match trace with
  | none => text ++ "\n"
  | some t => text ++ "\n\nStack trace:\n" ++ t ++ "\n"

end Scaffold
