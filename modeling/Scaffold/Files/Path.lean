import Scaffold.Text.Split

/-! # Paths

A path is a list of parts, relative or from a root. Empty parts and single dots lead nowhere and
are left out; double dots stay, because what they mean depends on links. A path with exactly two
slashes in front keeps them, any other number means the root.
-/

namespace Scaffold

inductive Anchor
  | relative
  | root
  | doubleRoot
  deriving DecidableEq, Repr

structure Path where
  anchor : Anchor
  parts : List String
  deriving DecidableEq, Repr

namespace Path

/-- A part that leads somewhere. -/
def isPart (cs : List Char) : Bool := cs != [] && cs != ['.']

def ofChars (cs : List Char) : Path where
  anchor :=
    match cs with
    | '/' :: '/' :: '/' :: _ => .root
    | '/' :: '/' :: _ => .doubleRoot
    | '/' :: _ => .root
    | _ => .relative
  parts := ((Text.split '/' cs).filter isPart).map String.ofList

def ofString (s : String) : Path := ofChars s.toList

def text (p : Path) : String :=
  let body := String.intercalate "/" p.parts
  match p.anchor with
  | .relative => if p.parts.isEmpty then "." else body
  | .root => "/" ++ body
  | .doubleRoot => "//" ++ body

/-- The path `q` seen from `p`; a path from a root is the same from everywhere. -/
def join (p q : Path) : Path :=
  match q.anchor with
  | .relative => ⟨p.anchor, p.parts ++ q.parts⟩
  | _ => q

def parent (p : Path) : Path := ⟨p.anchor, p.parts.dropLast⟩

instance : HDiv Path String Path := ⟨fun p s => p.join (ofString s)⟩

end Path

end Scaffold
