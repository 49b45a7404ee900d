import Scaffold.Files.Disk

/-! # Resolving paths

A path is resolved to a location without links or double dots, whether or not anything is there. A
link that leads back to itself cannot be resolved: what is left of the text of the path and of the
targets on the way is then put behind it as it stands, and what starts with a slash starts over. Of
that only dots are taken out in the end.
-/

namespace Scaffold

namespace Disk

/-- What names resolve to so far. -/
inductive Resolved
  | place (l : Location)
  /-- The pieces of a path up to a link that leads back to itself, and how many names are left
  behind it. -/
  | stuck (pieces : List String) (left : Nat)
  deriving DecidableEq, Repr

def link? (d : Disk) (l : Location) : Option String :=
  match d.entry? l with
  | some (.link target) => some target
  | _ => none

/-- The pieces behind the name that has a number of names behind it. -/
def piecesBehind (left : Nat) : List String → List String
  | [] => []
  | piece :: rest =>
    if piece ≠ "" ∧ (rest.filter (· ≠ "")).length = left then rest else piecesBehind left rest

/-- Pieces put behind others, unless they start with a slash. -/
def attach (pieces : List String) : List String → List String
  | "" :: piece :: rest => "" :: piece :: rest
  | rest => pieces ++ rest

/-- Goes from a place along names; `jump` resolves the target of a link at a location, seen from a
place, and `around` are the links that are being resolved. -/
def resolveWith (d : Disk) (jump : Location → Location → List String → Resolved)
    (around : List Location) (place : Location) : List String → Resolved
  | [] => .place place
  | name :: rest =>
    if name = "." then d.resolveWith jump around place rest
    else if name = ".." then d.resolveWith jump around place.dropLast rest
    else
      match d.link? (place ++ [name]) with
      | none => d.resolveWith jump around (place ++ [name]) rest
      | some target =>
        if around.contains (place ++ [name]) then .stuck ("" :: (place ++ [name])) rest.length
        else
          match jump (place ++ [name]) (linkStart place target) (linkParts target) with
          | .place l => d.resolveWith jump around l rest
          | .stuck pieces left =>
            .stuck (attach pieces (piecesBehind left (linkPieces target))) rest.length

/-- Goes along names through at most `depth` links inside each other. -/
def resolveFrom (d : Disk) : Nat → List Location → Location → List String → Resolved
  | 0, around => d.resolveWith (fun l _ _ => .stuck ("" :: l) 0) around
  | depth + 1, around =>
    d.resolveWith (fun l place names => d.resolveFrom depth (l :: around) place names) around

/-- How a path is resolved. -/
def resolution (d : Disk) (p : Path) : Resolved :=
  d.resolveFrom d.entries.length [] (d.start p) p.parts

/-- Names from the root without dots; a double dot takes away the name before it. -/
def fold (pieces : List String) : Location :=
  pieces.foldl (fun l name =>
    if name = "" ∨ name = "." then l else if name = ".." then l.dropLast else l ++ [name]) []

/-- Two slashes at the start are kept if there is no third. -/
def foldAnchor : List String → Anchor
  | "" :: "" :: "" :: _ :: _ => .root
  | "" :: "" :: _ :: _ => .doubleRoot
  | _ => .root

/-- The path without links that a path stands for, as far as it can be resolved. -/
def resolved (d : Disk) (p : Path) : Path :=
  match d.resolution p with
  | .place l => ⟨.root, l⟩
  | .stuck pieces left =>
    let pieces := attach pieces (p.parts.drop (p.parts.length - left))
    ⟨foldAnchor pieces, fold pieces⟩

/-- The first name with a flaw that is met when a path is resolved, by its path. Behind a link that
leads back to itself only the outcome is looked at. -/
def flawed? (d : Disk) (hasFlaw : String → Bool) (p : Path) : Option Path :=
  let sound := p.parts.takeWhile (!hasFlaw ·)
  match d.resolution ⟨p.anchor, sound⟩ with
  | .place l => p.parts[sound.length]?.map fun name => ⟨.root, l ++ [name]⟩
  | .stuck _ _ => if (d.resolved p).parts.any hasFlaw then some (d.resolved p) else none

def isNull (name : String) : Bool := name.toList.contains '\x00'

def hasNull (p : Path) : Bool := p.parts.any isNull

/-- The location of a path without links. A link that leads back to itself is a fault if it is
still in the way. -/
def resolve (d : Disk) (p : Path) : Except Failure Path :=
  if (d.flawed? isNull p).isSome then .error Fault.nullInPath
  else
    match d.find (d.resolved p) with
    | .error .tooManyLinks => .error (Fault.linkLoop (d.resolved p).text)
    | _ => .ok (d.resolved p)

end Disk

/-- What is wrong with the text of a path for the system. -/
def Host.pathFault? (h : Host) (p : Path) : Option Fault :=
  match Text.Charset.names.refusal? (h.standIns.points p.text) with
  | some e => some (.unencodable e)
  | none => if Disk.hasNull p then some .nullInPath else none

/-- Whether the system cannot be asked for a name. -/
def Host.refuses (h : Host) (name : String) : Bool := (h.pathFault? ⟨.relative, [name]⟩).isSome

/-- Fails if the system cannot be asked for a name that is met when a path is resolved. -/
def Disk.probe (d : Disk) (p : Path) : Except Failure Unit :=
  match (d.flawed? d.host.refuses p).bind d.host.pathFault? with
  | some f => .error f
  | none => .ok ()

end Scaffold
