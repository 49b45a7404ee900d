import Scaffold.Files.Path
import Scaffold.Host

/-! # Disks

The directories, files and links of a disk by their locations, and the directory that relative
paths start from. A location is the list of names that leads from the root to a place without
links. Looking a path up follows the links on its way, of which there may be forty.
-/

namespace Scaffold

inductive Entry
  | directory
  | file (content : List UInt8)
  | link (target : String)
  deriving DecidableEq, Repr

abbrev Location := List String

structure Disk where
  entries : List (Location × Entry)
  /-- The working directory. -/
  current : Location
  host : Host := {}

/-- Where a path leads: to an entry, or to a name that a directory does not hold yet. -/
inductive Spot
  | found (l : Location) (e : Entry)
  | vacant (l : Location)
  deriving DecidableEq, Repr

namespace Disk

def entry? (d : Disk) (l : Location) : Option Entry :=
  if l.isEmpty then some .directory else d.entries.lookup l

/-- The disk with an entry put or replaced. -/
def put (d : Disk) (l : Location) (e : Entry) : Disk :=
  { d with
    entries :=
      if (d.entries.lookup l).isSome then
        d.entries.map fun x => if x.1 = l then (l, e) else x
      else d.entries ++ [(l, e)] }

/-- Where the names of a path start. -/
def start (d : Disk) (p : Path) : Location :=
  match p.anchor with
  | .relative => d.current
  | _ => []

/-- What stands between the slashes of the target of a link; a slash at its end asks for a
directory. -/
def linkPieces (target : String) : List String :=
  let pieces := (Text.split '/' target.toList).map String.ofList
  if pieces.getLast? = some "" then pieces.dropLast ++ ["."] else pieces

/-- The names in the target of a link. -/
def linkParts (target : String) : List String := (linkPieces target).filter (· ≠ "")

/-- Where the target of a link in the directory `l` starts. -/
def linkStart (l : Location) (target : String) : Location :=
  if target.toList.head? = some '/' then [] else l

/-- Goes from a place along names; `jump` goes on from a link. The link at the very end is followed
only on demand. -/
def walkWith (d : Disk) (follow : Bool) (jump : Location → List String → Except SystemError Spot)
    (place : Location) : List String → Except SystemError Spot
  | [] =>
    match d.entry? place with
    | some e => .ok (.found place e)
    | none => .error .missing
  | name :: rest =>
    if d.entry? place ≠ some .directory then .error .notADirectory
    else if name = "." then d.walkWith follow jump place rest
    else if name = ".." then d.walkWith follow jump place.dropLast rest
    else
      match d.entry? (place ++ [name]) with
      | none => if rest = [] then .ok (.vacant (place ++ [name])) else .error .missing
      | some (.link target) =>
        if rest = [] ∧ !follow then .ok (.found (place ++ [name]) (.link target))
        else jump (linkStart place target) (linkParts target ++ rest)
      | some _ => d.walkWith follow jump (place ++ [name]) rest

/-- Goes along names over at most `links` links. -/
def walk (d : Disk) (follow : Bool) : Nat → Location → List String → Except SystemError Spot
  | 0 => d.walkWith follow fun _ _ => .error .tooManyLinks
  | links + 1 => d.walkWith follow (d.walk follow links)

def maxLinks : Nat := 40

/-- Where a path leads. -/
def find (d : Disk) (p : Path) : Except SystemError Spot :=
  d.walk true maxLinks (d.start p) p.parts

/-- Where a path leads when a link at its end is not followed. -/
def findLink (d : Disk) (p : Path) : Except SystemError Spot :=
  d.walk false maxLinks (d.start p) p.parts

def isDirectory (d : Disk) (p : Path) : Bool :=
  match d.find p with
  | .ok (.found _ .directory) => true
  | _ => false

def isFile (d : Disk) (p : Path) : Bool :=
  match d.find p with
  | .ok (.found _ (.file _)) => true
  | _ => false

/-- The content of the file that a path leads to. -/
def readFile (d : Disk) (p : Path) : Except SystemError (List UInt8) :=
  match d.find p with
  | .ok (.found _ (.file content)) => .ok content
  | .ok (.found _ _) => .error .isADirectory
  | .ok (.vacant _) => .error .missing
  | .error e => .error e

/-- The working directory as a path. -/
def currentPath (d : Disk) : Path := ⟨.root, d.current⟩

end Disk

end Scaffold
