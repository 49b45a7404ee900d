import Scaffold.Files.Disk

/-! # Actions on a disk

What can be done to a disk. An action that fails leaves the disk as it was at that point, so the
changes made before it stay.
-/

namespace Scaffold

/-- An action on a disk, which gives a result or fails. -/
abbrev Action := ExceptT Failure (StateM Disk)

namespace Action

def fail {α : Type} (e : SystemError) (p : Path) : Action α := throw (.fault (.system e p.text))

/-- The result of looking something up, with the path as the subject of its failure. -/
def ask {α : Type} (p : Path) (look : Disk → Path → Except SystemError α) : Action α := do
  match look (← get) p with
  | .ok a => return a
  | .error e => fail e p

/-- A new directory in a directory that is there. -/
def makeDirectory (p : Path) : Action Unit := do
  match ← ask p Disk.findLink with
  | .found _ _ => fail .present p
  | .vacant l => modify (·.put l .directory)

/-- Why a path cannot be made a directory right now, if it cannot. -/
def directoryTrouble (d : Disk) (p : Path) : Option SystemError :=
  match d.findLink p with
  | .ok (.vacant _) => none
  | .ok (.found _ _) => some .present
  | .error e => some e

/-- A directory that may be there already. -/
def ensureDirectory (p : Path) : Action Unit := do
  let d ← get
  match directoryTrouble d p with
  | none => makeDirectory p
  | some .missing => fail .missing p
  | some e => if d.isDirectory p then return () else fail e p

/-- A directory and those above it, of which some may be there already; `names` lead upwards. -/
def ensureDirectoriesAt (anchor : Anchor) (names : List String) : Action Unit := do
  let p : Path := ⟨anchor, names.reverse⟩
  match names with
  | [] => ensureDirectory p
  | _ :: above =>
    if directoryTrouble (← get) p = some .missing then
      ensureDirectoriesAt anchor above
    ensureDirectory p

def ensureDirectories (p : Path) : Action Unit := ensureDirectoriesAt p.anchor p.parts.reverse

/-- A file with this content, in place of the one that was there. -/
def writeFile (p : Path) (content : List UInt8) : Action Unit := do
  match ← ask p Disk.find with
  | .found _ .directory => fail .isADirectory p
  | .found l _ | .vacant l => modify (·.put l (.file content))

/-- A file with this text. If the text has no bytes the file is empty by the time it fails. -/
def writeText (p : Path) (text : List Text.Point) : Action Unit :=
  match Text.encode text with
  | .ok content => writeFile p content
  | .error e => do
    writeFile p []
    throw (.fault (.unencodable e))

end Action

end Scaffold
