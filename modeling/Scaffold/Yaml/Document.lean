import Scaffold.Yaml.Reading
import Scaffold.Yaml.Scalar

/-! # Documents

A document is loaded when every node that its root leads to has a value. Nodes are checked level by
level, so that of several faults the one nearest to the root decides. A merge key adds the entries
of other mappings in front of those that a mapping has itself. That is done once, when the mapping
is checked, and changes the graph for the nodes that are checked after it.
-/

namespace Scaffold.Yaml

def Tag.isCollection : Tag → Bool
  | .seq | .map | .set | .orderedMap | .pairs => true
  | _ => false

/-- The other tags, which say how a scalar is read; merge keys, the sign for values and unknown tags
say nothing. -/
def Tag.isScalar : Tag → Bool
  | .null | .bool | .int | .float | .binary | .timestamp | .str => true
  | _ => false

def Node.retag (t : Tag) : Node → Node
  | .scalar _ text => .scalar t text
  | .sequence _ items => .sequence t items
  | .mapping _ entries => .mapping t entries

namespace Graph

/-! ### Merging -/

def setNode (g : Graph) (i : Nat) (n : Node) : Graph :=
  { g with nodes := g.nodes.map fun e => if e.1 = i then (i, n) else e }

/-- The entries that a mapping has itself. -/
def entries (g : Graph) (i : Nat) : List (Nat × Nat) :=
  match g.node i with
  | .mapping _ entries => entries
  | _ => []

/-- The sign for values is a text where it is a key of a mapping. -/
def textKeys (g : Graph) (entries : List (Nat × Nat)) : Graph :=
  let isSign (i : Nat) : Bool := g.tag i == .value && (entries.map (·.1)).contains i
  { g with nodes := g.nodes.map fun e => (e.1, if isSign e.1 then e.2.retag .str else e.2) }

/-- Takes the merge keys out of a mapping, one after the other, and puts the entries of the mappings
that they lead to in front of its own; `added` are those from the keys before. A mapping that is
merged into itself is found without the keys that have been taken out so far. -/
def merge (i : Nat) (added : List (Nat × Nat)) : Nat → StateT Graph (Except Trouble) Unit
  | 0 => throw .malformed
  | fuel + 1 => do
    let g ← get
    let part (j : Nat) : StateT Graph (Except Trouble) (List (Nat × Nat)) := do
      merge j [] fuel
      return (← get).entries j
    match g.node i with
    | .mapping tag entries =>
      match entries.find? fun e => g.tag e.1 == .merge with
      | none => set ((g.setNode i (.mapping tag (added ++ entries))).textKeys entries)
      | some e =>
        set (g.setNode i (.mapping tag (entries.eraseP fun e => g.tag e.1 == .merge)))
        let more ←
          match g.node e.2 with
          | .mapping _ _ => part e.2
          | .sequence _ items => do
            let parts ← items.mapM part
            pure parts.reverse.flatten
          | .scalar _ _ => throw .malformed
        merge i (added ++ more) fuel
    | _ => throw .malformed

/-- More than the merge keys of a graph. -/
def mergeFuel (g : Graph) : Nat := (g.nodes.flatMap fun e => g.entries e.1).length + 1

/-! ### Scalars -/

/-- The text of a node that stands for a scalar; a mapping can give it under the value key. One that
gives itself leads on and on. -/
def textOf (g : Graph) : Nat → Nat → Except Trouble (List Char)
  | 0, _ => .error (.fault .exhausted)
  | fuel + 1, i =>
    match g.node i with
    | .scalar _ text => .ok text
    | .sequence _ _ => .error .malformed
    | .mapping _ entries =>
      match entries.find? fun e => g.tag e.1 == .value with
      | some e => g.textOf fuel e.2
      | none => .error .malformed

/-- The text that a node was read with, or that it is read with now. -/
def text (g : Graph) (i : Nat) : Except Trouble (List Char) :=
  match g.texts.lookup i with
  | some text => .ok text
  | none => g.textOf (g.nodes.length + 1) i

/-- The value of a node with a text. A time is never read from a mapping. -/
def valueOf (g : Graph) (i : Nat) (text : List Char) : Except Trouble Value :=
  match g.tag i, g.node i with
  | .timestamp, .mapping _ _ => .error (.fault (.notText "list"))
  | tag, _ => Scalar.value tag text

/-- The value of a node that stands for a scalar. -/
def atom (g : Graph) (i : Nat) : Except Trouble Value := do
  if !(g.tag i).isScalar then throw .malformed
  g.valueOf i (← g.text i)

/-- Reads a node that stands for a scalar. The text of a mapping is kept, because its value key is a
text from the time on that it is merged. -/
def readAtom (g : Graph) (i : Nat) : Except Trouble Graph := do
  let _ ← g.atom i
  match g.node i with
  | .mapping _ _ => return { g with texts := (i, ← g.text i) :: g.texts }
  | _ => return g

/-! ### Checking -/

/-- A step in checking a collection: a node that it holds, a key, or a part that it cannot hold. -/
inductive Visit
  | node (i : Nat)
  | key (i : Nat)
  | stop

/-- The steps in checking a node, once merge keys have been taken out. -/
def visits (g : Graph) (i : Nat) : List Visit :=
  match g.tag i, g.node i with
  | .seq, .sequence _ items => items.map Visit.node
  | .map, .mapping _ entries | .set, .mapping _ entries =>
    entries.flatMap fun e => [Visit.key e.1, Visit.node e.2]
  | .orderedMap, .sequence _ items | .pairs, .sequence _ items =>
    items.flatMap fun j =>
      match g.node j with
      | .mapping _ [(k, v)] => [Visit.node k, Visit.node v]
      | _ => [.stop]
  | _, _ => [.stop]

/-- The graph as it has become, the nodes that have been met, and of these the collections that are
still to be checked. -/
structure Agenda where
  graph : Graph
  met : List Nat := []
  pending : List Nat := []

namespace Agenda

def meet (a : Agenda) (i : Nat) : Except Trouble Agenda :=
  if a.met.contains i then .ok a
  else if (a.graph.tag i).isCollection then
    .ok { a with met := i :: a.met, pending := a.pending ++ [i] }
  else (a.graph.readAtom i).map fun g => { a with graph := g, met := i :: a.met }

def visit (a : Agenda) : Visit → Except Trouble Agenda
  | .stop => .error .malformed
  | .node i => a.meet i
  | .key i => do
    let a ← a.meet i
    if (a.graph.tag i).isCollection then throw .malformed
    return a

/-- The graph with the merge keys of a mapping taken out, as far as it is one. -/
def merged (g : Graph) (i : Nat) : Except Trouble Graph :=
  match g.tag i, g.node i with
  | .map, .mapping _ _ | .set, .mapping _ _ => ((merge i [] g.mergeFuel).run g).map (·.2)
  | _, _ => .ok g

/-- Every pending collection is checked, and what it holds is met. -/
def checkAll : Nat → Agenda → Except Trouble Graph
  | 0, a => .ok a.graph
  | fuel + 1, a =>
    match a.pending with
    | [] => .ok a.graph
    | i :: rest => do
      let g ← merged a.graph i
      let a ← (g.visits i).foldlM visit { a with graph := g, pending := rest }
      checkAll fuel a

end Agenda

/-- The graph in which every node that the root leads to has a value, if there is one. -/
def check (g : Graph) : Except Trouble Graph :=
  match g.root with
  | none => .ok g
  | some i => do
    let a ← Agenda.visit { graph := g } (.node i)
    a.checkAll (g.nodes.length + 1)

/-! ### Values -/

/-- The value of a node seen from inside the nodes `around`. -/
def valueFrom (g : Graph) (around : List Nat) : Nat → Nat → Value
  | 0, _ => .null
  | fuel + 1, i =>
    let inner (j : Nat) : Value := g.valueFrom (i :: around) fuel j
    let pair (j : Nat) : List (Value × Value) := (g.entries j).map fun e => (inner e.1, inner e.2)
    match g.tag i, g.node i with
    | .seq, .sequence _ items =>
      if around.contains i then .listAgain else .list (items.map inner)
    | .orderedMap, .sequence _ items | .pairs, .sequence _ items =>
      if around.contains i then .listAgain else .pairs (items.flatMap pair)
    | .map, _ =>
      if around.contains i then .mapAgain
      else .map ((g.entries i).foldl (fun es e => Value.put (inner e.1) (inner e.2) es) [])
    | .set, _ =>
      .set (((g.entries i).foldl (fun es e => Value.put (inner e.1) .null es) []).map (·.1))
    | _, _ =>
      match g.atom i with
      | .ok v => v
      | .error _ => .null

/-- The value of a node. -/
def value (g : Graph) (i : Nat) : Value := g.valueFrom [] (g.nodes.length + 1) i

def isMap (g : Graph) (i : Nat) : Bool := g.tag i == .map

/-- The node under a text key of a mapping; of equal keys the last counts. -/
def member? (g : Graph) (key : String) (i : Nat) : Option Nat :=
  (g.entries i).reverse.findSome? fun e =>
    match g.atom e.1 with
    | .ok (.text s) => if s = key then some e.2 else none
    | _ => none

end Graph

/-- The graph of a document in which every node has a value. -/
def load (standIns : Text.StandIns) (cs : List Char) : Except Trouble Graph := do
  let g ← Graph.ofTokens (Tokens.ofChars standIns cs)
  g.check

end Scaffold.Yaml
