import Scaffold.Files.Resolve
import Scaffold.Name.Grammar
import Scaffold.Project.Basic
import Scaffold.Yaml.Document

/-! # Project settings

The settings of a project are a document in its directory: a section on the project itself and one
on its database service. Everything in it may be left out, and an empty section counts as left out.
-/

namespace Scaffold.Project

/-- The names of a settings file; the first one that is there counts. -/
def fileNames : List String := ["saas.yaml", "saas.yml"]

/-- The settings file of a directory, which is the working directory unless another one is given. -/
def find? (d : Disk) (directory : Option Path) : Option Path :=
  (fileNames.map fun name => directory.getD d.currentPath / name).find? d.isFile

/-- A section: a mapping in the document, or nothing where it is absent or empty. -/
def sectionOf (g : Yaml.Graph) (root : Option Nat) (key : String) :
    Except SettingsTrouble (Option Nat) :=
  match root.bind (g.member? key) with
  | none => .ok none
  | some i =>
    if !(g.value i).isTruthy then .ok none
    else if g.isMap i then .ok (some i)
    else .error (.sectionKind key)

/-- The section on the project and the one on its database service. -/
def sections (g : Yaml.Graph) : Except SettingsTrouble (Option Nat × Option Nat) := do
  let root := g.root.filter fun i => g.tag i != .null
  if root.any fun i => !g.isMap i then throw .rootKind
  return (← sectionOf g root "project", ← sectionOf g root "supabase")

/-- The value under a key of a section. -/
def setting? (g : Yaml.Graph) (part : Option Nat) (key : String) : Option Value :=
  (part.bind (g.member? key)).map g.value

/-- The value under a key of a section as a text, where it is there and satisfies `p`. -/
def written (h : Host) (v : Option Value) (p : Value → Bool) : Except Failure (Option String) :=
  match v.filter p with
  | none => .ok none
  | some v => (some <$> h.write v).mapError .fault

def checkName (name : Option String) : Except SettingsTrouble Unit :=
  match name with
  | none => .ok ()
  | some name =>
    if Name.isProjectName name.toList then .ok () else .error (.projectName name)

def checkKind (kind : String) : Except SettingsTrouble Unit :=
  if projectTypes.contains kind then .ok () else .error (.projectType kind)

/-- What is wrong with settings is told with the path of their file. -/
def told {α : Type} (shown : String) (x : Except SettingsTrouble α) : Except Failure α :=
  x.mapError fun t => .complaint (.settings shown t)

/-- The name of the project, if it has one. -/
def nameOf (h : Host) (shown : String) (v : Option Value) : Except Failure (Option String) := do
  let name ← written h v (!·.isNull)
  told shown (checkName name)
  return name

/-- The kind of the project; it is what it is written as, even where it is null. -/
def kindOf (h : Host) (shown : String) (v : Option Value) : Except Failure String := do
  let kind := (← written h v fun _ => true).getD defaultKind
  told shown (checkKind kind)
  return kind

/-- The directory for the database service. One that counts as absent means the default. -/
def databasePathOf (h : Host) (v : Option Value) : Except Failure String := do
  return (← written h v Value.isTruthy).getD defaultDatabasePath

/-- The project that a document describes; `path` is the place of its settings file, which is called
`shown`. -/
def ofGraph (h : Host) (shown : String) (path : Path) (g : Yaml.Graph) :
    Except Failure Project := do
  let (project, database) ← told shown (sections g)
  let name ← nameOf h shown (setting? g project "name")
  let kind ← kindOf h shown (setting? g project "type")
  let databasePath ← databasePathOf h (setting? g database "path")
  return { path, name, kind, databasePath }

/-- The graph of a settings file with this content. -/
def readGraph (h : Host) (shown : String) (content : List UInt8) : Except Failure Yaml.Graph :=
  match Text.decodeUtf8 content with
  | .error m => .error (Fault.malformedUtf8 m)
  | .ok cs =>
    if h.isTooDeep cs then .error Fault.exhausted
    else
      match Yaml.load h.standIns (Text.normalizeNewlines cs) with
      | .ok g => .ok g
      | .error .malformed => .error (Complaint.settings shown (.malformed "not a valid document"))
      | .error (.fault f) => .error f

/-- The project of a settings file. -/
def load (d : Disk) (p : Path) : Except Failure Project := do
  if let some f := d.host.pathFault? p then throw (.fault f)
  let content ← (d.readFile p).mapError fun e =>
    Failure.complaint (.settings p.text (.unreadable (e.message p.text d.host.code)))
  let g ← readGraph d.host p.text content
  let resolved ← d.resolve p
  ofGraph d.host p.text resolved g

/-- The project of a directory, if it has settings. -/
def ofDirectory (d : Disk) (directory : Option Path) : Except Failure (Option Project) :=
  match find? d directory with
  | none => .ok none
  | some p => some <$> load d p

end Scaffold.Project
