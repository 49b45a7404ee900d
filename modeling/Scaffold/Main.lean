import Scaffold.Command.Run
import Std.Time.Zoned

/-! # The program

Looks at what a run may depend on, runs it on that, and then does to the real disk what was done to
the picture of it. Nothing is decided here.
-/

namespace Scaffold.Program

/-- The variable that asks for traces when it is not empty. -/
def debugVariable : String := "SAAS_DEBUG"

def context : IO Command.Context := do
  let t ← Std.Time.PlainDateTime.now
  let date : Date := ⟨t.year.toInt.toNat, t.month.val.toNat, t.day.val.toNat⟩
  let now : Moment :=
    ⟨date, t.hour.val.toNat, t.minute.val.toNat, t.second.val.toNat, 0, none⟩
  return .ofVariable (← IO.getEnv debugVariable) now

def placeText (l : Location) : String := "/" ++ String.intercalate "/" l

/-- A file or a directory. -/
def readEntry (path : String) : IO Entry := do
  match ← (IO.FS.readBinFile path).toBaseIO with
  | .ok content => return .file content.toList
  | .error (.inappropriateType ..) => return .directory
  | .error e => throw e

/-- Whether there is an entry at a place, which may be a link that leads nowhere. It is given the
name that it has, which changes nothing. -/
def isTaken (l : Location) : IO Bool := do
  match ← (IO.FS.rename (placeText l) (placeText l)).toBaseIO with
  | .ok _ => return true
  | .error (.noFileOrDirectory ..) | .error (.inappropriateType ..) => return false
  | .error e => throw e

/-- What stands at a place below directories that are no links. A link is shown with the place that
it leads to in the end. What one that leads nowhere says cannot be found out, so there is no run on
a disk with one. -/
def look (l : Location) : IO (Option Entry) := do
  match ← (IO.FS.realPath (placeText l)).toBaseIO with
  | .ok real =>
    if toString real ≠ placeText l then return some (.link (toString real))
    else return some (← readEntry (placeText l))
  | .error _ =>
    if ← isTaken l then throw (.userError s!"{placeText l} is a link that leads nowhere")
    else return none

/-- Adds to a picture of the disk what stands along a path. -/
partial def survey (d : Disk) (place : Location) : List String → IO Disk
  | [] => return d
  | ".." :: rest => survey d place.dropLast rest
  | name :: rest => do
    let l := place ++ [name]
    match ← look l with
    | none => survey d l rest
    | some (.link target) =>
      survey (d.put l (.link target)) [] (Disk.linkParts target ++ rest)
    | some e => survey (d.put l e) l rest

def surveyPath (d : Disk) (p : Path) : IO Disk := survey d (d.start p) p.parts

/-- The working directory and the settings in it. -/
def surroundings : IO Disk := do
  let here := Path.ofString (toString (← IO.FS.realPath "."))
  let d ← surveyPath { entries := [], current := here.parts } here
  Project.fileNames.foldlM (fun d name => surveyPath d (here / name)) d

/-- The path that a job writes to. -/
def target? (d : Disk) (j : Command.Job) : Option Path :=
  match j.plan with
  | .ok (.write path _ base) => some ((base.getD d.currentPath).join (Path.ofString path))
  | _ => none

/-- Makes the directories and writes the files that are new or have changed. -/
def apply (before after : Disk) : IO Unit := do
  for (l, e) in after.entries do
    if before.entries.lookup l ≠ some e then
      match e with
      | .directory => IO.FS.createDir (placeText l)
      | .file content => IO.FS.writeBinFile (placeText l) ⟨content.toArray⟩
      | .link _ => pure ()

/-- Prints what a run gave, and gives the exit code. -/
def conclude (o : Command.Outcome) : IO UInt32 := do
  IO.print o.stdout
  IO.eprint o.stderr
  match o.ending with
  | .exit code => return UInt32.ofNat (code % 256).toNat
  | .fault f =>
    IO.eprintln f.message
    return 1

end Scaffold.Program

/-- Runs the command line. -/
def main (arguments : List String) : IO UInt32 := do
  let context ← Scaffold.Program.context
  let seen ← Scaffold.Program.surroundings
  let job? := (Scaffold.Command.job context seen arguments).toOption
  let before ←
    match job?.bind (Scaffold.Program.target? seen) with
    | some p => Scaffold.Program.surveyPath seen p
    | none => pure seen
  let (outcome, after) := Scaffold.Command.execute .utf8 context arguments before
  Scaffold.Program.apply before after
  Scaffold.Program.conclude outcome
