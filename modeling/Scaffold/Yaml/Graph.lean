import Scaffold.Yaml.Cursor

/-! # Representation graphs

A document is a graph of nodes, because a reference leads back to the node that it names. A node
carries a tag, which says what kind of value it stands for.
-/

namespace Scaffold.Yaml

inductive Tag
  | null
  | bool
  | int
  | float
  | binary
  | timestamp
  | str
  | seq
  | map
  | set
  | orderedMap
  | pairs
  | merge
  | value
  | other
  deriving DecidableEq, Repr

/-- What the names of the known tags start with. -/
def Tag.domain : String := "tag:yaml.org,2002:"

def Tag.words : List (String × Tag) :=
  [("null", .null), ("bool", .bool), ("int", .int), ("float", .float), ("binary", .binary),
    ("timestamp", .timestamp), ("str", .str), ("seq", .seq), ("map", .map), ("set", .set),
    ("omap", .orderedMap), ("pairs", .pairs), ("merge", .merge), ("value", .value)]

def Tag.ofName (name : String) : Tag :=
  match Tag.words.find? fun w => Tag.domain ++ w.1 = name with
  | some w => w.2
  | none => .other

inductive Node
  | scalar (tag : Tag) (text : List Char)
  | sequence (tag : Tag) (items : List Nat)
  | mapping (tag : Tag) (entries : List (Nat × Nat))
  deriving DecidableEq, Repr

/-- The nodes of a document by number, and the node that is the document; none if it is empty.
`texts` are those of mappings that have been read as scalars. -/
structure Graph where
  nodes : List (Nat × Node)
  root : Option Nat
  texts : List (Nat × List Char) := []
  deriving DecidableEq, Repr

namespace Graph

/-- The node with a number; numbers that a graph does not use stand for null. -/
def node (g : Graph) (i : Nat) : Node := (g.nodes.lookup i).getD (.scalar .null [])

def tag (g : Graph) (i : Nat) : Tag :=
  match g.node i with
  | .scalar t _ | .sequence t _ | .mapping t _ => t

end Graph

end Scaffold.Yaml
