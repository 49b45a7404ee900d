import Scaffold.Yaml.Implicit
import Scaffold.Yaml.Token.Stream

/-! # Reading a document

The tokens of a document describe one graph. Nodes are numbered in the order in which they begin;
a reference stands for the number of a node that began earlier under its name.
-/

namespace Scaffold.Yaml

/-- A document that is being read: the tokens to come, what ends them, and the graph so far. -/
structure Reader where
  tokens : List Token
  trouble : Trouble
  handles : List (String × String) := []
  anchors : List (String × Nat) := []
  nodes : List (Nat × Node) := []
  size : Nat := 0

abbrev Reading := StateT Reader (Except Trouble)

namespace Reading

def malformed {α : Type} : Reading α := throw .malformed

/-- The next token, which stays. -/
def peek : Reading Token := do
  let r ← get
  match r.tokens with
  | t :: _ => return t
  | [] => throw r.trouble

def skip : Reading Unit := modify fun r => { r with tokens := r.tokens.drop 1 }

/-- Whether the next token is `t`, which is then taken. -/
def accept (t : Token) : Reading Bool := do
  if (← peek) = t then
    skip
    return true
  else return false

def expect (t : Token) : Reading Unit := do
  if !(← accept t) then malformed

def nextIs (ts : List Token) : Reading Bool := return ts.contains (← peek)

/-- A number for a node that begins here, under a name if it has one. -/
def begin (name : Option String) : Reading Nat := do
  let r ← get
  let i := r.size
  match name with
  | none => set { r with size := i + 1 }
  | some n =>
    if (r.anchors.lookup n).isSome then malformed
    set { r with size := i + 1, anchors := (n, i) :: r.anchors }
  return i

def store (i : Nat) (n : Node) : Reading Unit :=
  modify fun r => { r with nodes := (i, n) :: r.nodes }

def scalarNode (name : Option String) (tag : Tag) (text : List Char) : Reading Nat := do
  let i ← begin name
  store i (.scalar tag text)
  return i

/-- The node of a place where nothing is written. -/
def emptyNode : Reading Nat := scalarNode none .null []

def anchor? : Reading (Option String) := do
  match ← peek with
  | .anchor name =>
    skip
    return some name
  | _ => return none

/-- The full name of a tag, if one is written here. -/
def tag? : Reading (Option (Option String × String)) := do
  match ← peek with
  | .tag handle suffix =>
    skip
    return some (handle, suffix)
  | _ => return none

def tagName : Option String × String → Reading String
  | (none, suffix) => return suffix
  | (some handle, suffix) => do
    match (← get).handles.lookup handle with
    | some start => return start ++ suffix
    | none => malformed

/-- An anchor and a tag, in either order. -/
def properties : Reading (Option String × Option String) := do
  match ← anchor? with
  | some name => do
    let tag ← tag?
    return (some name, ← tag.mapM tagName)
  | none => do
    let tag ← tag?
    let name ← if tag.isSome then anchor? else pure none
    return (name, ← tag.mapM tagName)

/-- The tag of a node: the written one, or `implied` where none or the sign alone is written. -/
def chosenTag (written : Option String) (implied : Tag) : Tag :=
  match written with
  | none | some "!" => implied
  | some name => Tag.ofName name

mutual

/-- The node here; `block` says whether it may be a block, `indentless` whether it may be a
sequence that is indented like its key. -/
def node (block indentless : Bool) : Nat → Reading Nat
  | 0 => malformed
  | fuel + 1 => do
    if let .reference name ← peek then
      skip
      match (← get).anchors.lookup name with
      | some i => return i
      | none => malformed
    else
      let (name, tag) ← properties
      match ← peek with
      | .blockEntry =>
        if indentless then sequence name tag (indentlessItems fuel)
        else bare name tag
      | .scalar text plain =>
        skip
        let implied := if plain || tag == some "!" then Tag.ofPlain text else .str
        scalarNode name (chosenTag tag implied) text
      | .flowSequenceStart =>
        skip
        sequence name tag (flowItems true fuel)
      | .flowMappingStart =>
        skip
        mapping name tag (flowEntries true fuel)
      | .blockSequenceStart =>
        if block then
          skip
          sequence name tag (blockItems fuel)
        else bare name tag
      | .blockMappingStart =>
        if block then
          skip
          mapping name tag (blockEntries fuel)
        else bare name tag
      | _ => bare name tag
where
  /-- A node of which only an anchor or a tag is written. -/
  bare (name tag : Option String) : Reading Nat :=
    if name.isSome || tag.isSome then scalarNode name (chosenTag tag .null) [] else malformed
  sequence (name tag : Option String) (items : Reading (List Nat)) : Reading Nat := do
    let i ← begin name
    store i (.sequence (chosenTag tag .seq) (← items))
    return i
  mapping (name tag : Option String) (entries : Reading (List (Nat × Nat))) : Reading Nat := do
    let i ← begin name
    store i (.mapping (chosenTag tag .map) (← entries))
    return i

/-- A node of a block, or nothing before one of the marks `ends`. -/
def blockPart (indentless : Bool) (ends : List Token) : Nat → Reading Nat
  | 0 => malformed
  | fuel + 1 => do
    if ← nextIs ends then emptyNode else node true indentless fuel

def flowPart (ends : List Token) : Nat → Reading Nat
  | 0 => malformed
  | fuel + 1 => do
    if ← nextIs ends then emptyNode else node false false fuel

def blockItems : Nat → Reading (List Nat)
  | 0 => malformed
  | fuel + 1 => do
    if ← accept .blockEntry then
      let i ← blockPart false [.blockEntry, .blockEnd] fuel
      return i :: (← blockItems fuel)
    else
      expect .blockEnd
      return []

def indentlessItems : Nat → Reading (List Nat)
  | 0 => malformed
  | fuel + 1 => do
    if ← accept .blockEntry then
      let i ← blockPart false [.blockEntry, .key, .value, .blockEnd] fuel
      return i :: (← indentlessItems fuel)
    else return []

def blockEntries : Nat → Reading (List (Nat × Nat))
  | 0 => malformed
  | fuel + 1 => do
    if ← accept .key then
      let k ← blockPart true [.key, .value, .blockEnd] fuel
      let v ←
        if ← accept .value then blockPart true [.key, .value, .blockEnd] fuel
        else emptyNode
      return (k, v) :: (← blockEntries fuel)
    else
      expect .blockEnd
      return []

/-- The value after a key in the flow style, before one of the marks `ends`. -/
def flowValue (ends : List Token) : Nat → Reading Nat
  | 0 => malformed
  | fuel + 1 => do
    if ← accept .value then flowPart ends fuel else emptyNode

/-- The rest of a flow sequence; an item with a key is a mapping of its own. -/
def flowItems (first : Bool) : Nat → Reading (List Nat)
  | 0 => malformed
  | fuel + 1 => do
    if ← accept .flowSequenceEnd then return []
    if !first then expect .flowEntry
    if ← accept .key then
      let i ← begin none
      let k ← flowPart [.value, .flowEntry, .flowSequenceEnd] fuel
      let v ← flowValue [.flowEntry, .flowSequenceEnd] fuel
      store i (.mapping .map [(k, v)])
      return i :: (← flowItems false fuel)
    else if ← accept .flowSequenceEnd then return []
    else
      let i ← node false false fuel
      return i :: (← flowItems false fuel)

def flowEntries (first : Bool) : Nat → Reading (List (Nat × Nat))
  | 0 => malformed
  | fuel + 1 => do
    if ← accept .flowMappingEnd then return []
    if !first then expect .flowEntry
    if ← accept .key then
      let k ← flowPart [.value, .flowEntry, .flowMappingEnd] fuel
      let v ← flowValue [.flowEntry, .flowMappingEnd] fuel
      return (k, v) :: (← flowEntries false fuel)
    else if ← accept .flowMappingEnd then return []
    else
      let k ← node false false fuel
      let v ← emptyNode
      return (k, v) :: (← flowEntries false fuel)

end

def defaultHandles : List (String × String) := [("!", "!"), ("!!", Tag.domain)]

/-- The directives before a document: at most one version, and handles for tags. -/
def directives (version : Bool) (handles : List (String × String)) : Nat → Reading Unit
  | 0 => malformed
  | fuel + 1 => do
    match ← peek with
    | .directive d =>
      skip
      match d with
      | .version major =>
        if version || major != 1 then malformed else directives true handles fuel
      | .tag handle start =>
        if (handles.lookup handle).isSome then malformed
        else directives version ((handle, start) :: handles) fuel
      | .other => directives version handles fuel
    | _ => modify fun r => { r with handles := handles ++ defaultHandles }

def documentEnds : Nat → Reading Unit
  | 0 => malformed
  | fuel + 1 => do
    if ← accept .documentEnd then documentEnds fuel

/-- The one document of a stream, or none if there is nothing in it. -/
def document (fuel : Nat) : Reading (Option Nat) := do
  match ← peek with
  | .streamEnd => return none
  | .directive _ | .documentStart =>
    directives false [] fuel
    expect .documentStart
    let i ←
      match ← peek with
      | .directive _ | .documentStart | .documentEnd | .streamEnd => emptyNode
      | _ => node true false fuel
    close i
  | _ =>
    modify fun r => { r with handles := defaultHandles }
    close (← node true false fuel)
where
  close (i : Nat) : Reading (Option Nat) := do
    documentEnds fuel
    if ← accept .streamEnd then return some i
    directives false [] fuel
    malformed

end Reading

/-- The graph that tokens describe. -/
def Graph.ofTokens (ts : Tokens) : Except Trouble Graph := do
  let reader : Reader := { tokens := ts.list, trouble := ts.trouble.getD .malformed }
  let (root, r) ← (Reading.document (4 * ts.list.length + 8)).run reader
  return { nodes := r.nodes, root }

end Scaffold.Yaml
