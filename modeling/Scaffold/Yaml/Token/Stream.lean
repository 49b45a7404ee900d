import Scaffold.Yaml.Token.Block
import Scaffold.Yaml.Token.Name
import Scaffold.Yaml.Token.Plain
import Scaffold.Yaml.Token.Quoted

/-! # Token streams

Blocks open and close by indentation, and a key is known as one only when its colon comes: on the
same line and at most 1024 characters later. Until then the tokens from that place on are held
back, so that the marks of a key and of a new block can be put in front of it.
-/

namespace Scaffold.Yaml

/-- A place where a key may have started; `number` counts the tokens before it. A required key
stands where the block needs one. -/
structure PossibleKey where
  level : Int
  number : Nat
  required : Bool
  index : Nat
  line : Nat
  column : Nat

/-- The tokens read so far, the last one first, and what the next one depends on. -/
structure Lexer where
  cursor : Cursor
  standIns : Text.StandIns := .usual
  tokens : List Token := []
  flow : Int := 0
  indent : Int := -1
  indents : List Int := []
  allowKey : Bool := true
  keys : List PossibleKey := []
  finished : Bool := false

namespace Lexer

def inFlow (s : Lexer) : Bool := s.flow != 0

def push (s : Lexer) (t : Token) : Lexer := { s with tokens := t :: s.tokens }

/-- A token put in front of those from `number` on. -/
def insert (s : Lexer) (number : Nat) (t : Token) : Lexer :=
  let later := s.tokens.length - number
  { s with tokens := s.tokens.take later ++ t :: s.tokens.drop later }

def isStale (s : Lexer) (k : PossibleKey) : Bool :=
  k.line != s.cursor.line || decide (1024 < s.cursor.index - k.index)

def dropStale (s : Lexer) : Except Trouble Lexer :=
  if s.keys.any fun k => s.isStale k && k.required then .error .malformed
  else .ok { s with keys := s.keys.filter (!s.isStale ·) }

/-- No key can have started on the current level. -/
def dropKey (s : Lexer) : Except Trouble Lexer :=
  if s.keys.any fun k => k.level == s.flow && k.required then .error .malformed
  else .ok { s with keys := s.keys.filter (·.level != s.flow) }

/-- A key may start here, if keys are allowed. -/
def saveKey (s : Lexer) : Except Trouble Lexer :=
  if s.allowKey then do
    let s ← s.dropKey
    let c := s.cursor
    let required := !s.inFlow && s.indent == (c.column : Int)
    let key := ⟨s.flow, s.tokens.length, required, c.index, c.line, c.column⟩
    return { s with keys := key :: s.keys }
  else .ok s

/-- The blocks that are indented deeper than `column` end. -/
def unwindFrom (column : Int) : List Int → Lexer → Lexer
  | [], s => s
  | i :: is, s =>
    if column < s.indent then
      unwindFrom column is { s with indent := i, indents := is, tokens := .blockEnd :: s.tokens }
    else s

def unwind (column : Int) (s : Lexer) : Lexer :=
  if s.inFlow then s else unwindFrom column s.indents s

/-- A deeper block begins at `column`; its mark goes in front of the tokens from `number` on. -/
def openBlock (column number : Nat) (mark : Token) (s : Lexer) : Lexer :=
  if s.indent < (column : Int) then
    { s with indent := column, indents := s.indent :: s.indents }.insert number mark
  else s

/-- A mark of `n` characters. -/
def sign (n : Nat) (t : Token) (s : Lexer) : Lexer :=
  { s with cursor := s.cursor.advance n }.push t

def finish (s : Lexer) : Except Trouble Lexer := do
  let s ← (s.unwind (-1)).dropKey
  return { s with allowKey := false, keys := [], finished := true }.push .streamEnd

def directive (s : Lexer) : Except Trouble Lexer := do
  let s ← (s.unwind (-1)).dropKey
  let (d, c) ← s.cursor.directive
  return { s with allowKey := false, cursor := c }.push (.directive d)

def separator (t : Token) (s : Lexer) : Except Trouble Lexer := do
  let s ← (s.unwind (-1)).dropKey
  return { s with allowKey := false }.sign 3 t

def openFlow (t : Token) (s : Lexer) : Except Trouble Lexer := do
  let s ← s.saveKey
  return { s with flow := s.flow + 1, allowKey := true }.sign 1 t

def closeFlow (t : Token) (s : Lexer) : Except Trouble Lexer := do
  let s ← s.dropKey
  return { s with flow := s.flow - 1, allowKey := false }.sign 1 t

def flowEntry (s : Lexer) : Except Trouble Lexer := do
  let s ← s.dropKey
  return { s with allowKey := true }.sign 1 .flowEntry

def blockEntry (s : Lexer) : Except Trouble Lexer := do
  if !s.inFlow && !s.allowKey then throw .malformed
  let s := if s.inFlow then s
    else s.openBlock s.cursor.column s.tokens.length .blockSequenceStart
  let s ← s.dropKey
  return { s with allowKey := true }.sign 1 .blockEntry

def keySign (s : Lexer) : Except Trouble Lexer := do
  if !s.inFlow && !s.allowKey then throw .malformed
  let s := if s.inFlow then s
    else s.openBlock s.cursor.column s.tokens.length .blockMappingStart
  let s ← s.dropKey
  return { s with allowKey := !s.inFlow }.sign 1 .key

/-- A colon makes the place where a key may have started a key; without one it stands for an empty
key, or follows a key with a sign of its own. -/
def valueSign (s : Lexer) : Except Trouble Lexer := do
  match s.keys.find? (·.level == s.flow) with
  | some k =>
    let s := { s with keys := s.keys.filter (·.level != s.flow) }.insert k.number .key
    let s := if s.inFlow then s else s.openBlock k.column k.number .blockMappingStart
    return { s with allowKey := false }.sign 1 .value
  | none =>
    if !s.inFlow && !s.allowKey then throw .malformed
    let s := if s.inFlow then s
      else s.openBlock s.cursor.column s.tokens.length .blockMappingStart
    let s ← { s with allowKey := !s.inFlow }.dropKey
    return s.sign 1 .value

/-- A token that may start a key, read by `read`. -/
def word (read : Cursor → Except Trouble (Token × Cursor)) (s : Lexer) : Except Trouble Lexer := do
  let s ← s.saveKey
  let (t, c) ← read s.cursor
  return { s with allowKey := false, cursor := c }.push t

def plain (s : Lexer) : Except Trouble Lexer := do
  let s ← s.saveKey
  let (text, c, crossed) := s.cursor.plain s.inFlow (s.indent + 1)
  return { s with allowKey := crossed, cursor := c }.push (.scalar text true)

def blockScalar (folded : Bool) (s : Lexer) : Except Trouble Lexer := do
  let s ← s.dropKey
  let (text, c) ← s.cursor.block folded s.indent
  return { s with allowKey := true, cursor := c }.push (.scalar text false)

/-- Blanks, comments and line ends; after a line end in the block style a key may start. -/
def skipBlank : Nat → Lexer → Lexer
  | 0, s => s
  | fuel + 1, s =>
    let c := s.cursor.skipSpaces.skipComment
    match c.lineBreak? with
    | some (_, next) =>
      skipBlank fuel { s with cursor := next, allowKey := s.allowKey || !s.inFlow }
    | none => { s with cursor := c }

/-- Whether a plain scalar may start with `c` before the character `next`. -/
def startsPlain (flow : Bool) (c : Char) (next : Option Char) : Bool :=
  (isInk c && !("-?:,[]\x7b\x7d#&*!|>'\"%@`".toList.contains c)) ||
    (next.any isInk && (c == '-' || (!flow && (c == '?' || c == ':'))))

def scalar (text : Except Trouble (List Char × Cursor)) : Except Trouble (Token × Cursor) :=
  text.map fun r => (.scalar r.1 false, r.2)

/-- The token at the cursor, which is not blank. -/
def token (s : Lexer) : Except Trouble Lexer :=
  let c := s.cursor
  match c.rest with
  | [] => s.finish
  | ch :: cs =>
    let alone := cs.head?.all (!isInk ·)
    if ch = '%' ∧ c.column = 0 then s.directive
    else if c.column = 0 ∧ c.atDocumentStart then s.separator .documentStart
    else if c.column = 0 ∧ c.atDocumentEnd then s.separator .documentEnd
    else if ch = '[' then s.openFlow .flowSequenceStart
    else if ch = '\x7b' then s.openFlow .flowMappingStart
    else if ch = ']' then s.closeFlow .flowSequenceEnd
    else if ch = '\x7d' then s.closeFlow .flowMappingEnd
    else if ch = ',' then s.flowEntry
    else if ch = '-' ∧ alone then s.blockEntry
    else if ch = '?' ∧ (s.inFlow ∨ alone) then s.keySign
    else if ch = ':' ∧ (s.inFlow ∨ alone) then s.valueSign
    else if ch = '*' then s.word fun c => c.name.map fun r => (.reference r.1, r.2)
    else if ch = '&' then s.word fun c => c.name.map fun r => (.anchor r.1, r.2)
    else if ch = '!' then s.word Cursor.tag
    else if ch = '|' ∧ !s.inFlow then s.blockScalar false
    else if ch = '>' ∧ !s.inFlow then s.blockScalar true
    else if ch = '\'' then s.word fun c => scalar (c.quoted s.standIns false)
    else if ch = '"' then s.word fun c => scalar (c.quoted s.standIns true)
    else if startsPlain s.inFlow ch cs.head? then s.plain
    else .error .malformed

/-- The next token, with the marks of blocks that begin or end before it. -/
def next (s : Lexer) : Except Trouble Lexer := do
  let c := s.cursor
  let c := if c.index = 0 ∧ c.sees (· == '\ufeff') then c.step else c
  let s := skipBlank (c.rest.length + 1) { s with cursor := c }
  let s ← s.dropStale
  (s.unwind s.cursor.column).token

/-- The tokens that are not held back for a key. -/
def released (s : Lexer) : List Token :=
  let held := s.keys.filter (!s.isStale ·)
  s.tokens.reverse.take (held.foldl (fun n k => min n k.number) s.tokens.length)

end Lexer

/-- Tokens in order, and what ended them before the end of the document. -/
structure Tokens where
  list : List Token
  trouble : Option Trouble

namespace Tokens

def from_ : Nat → Lexer → Tokens
  | 0, s => ⟨s.released, some .malformed⟩
  | fuel + 1, s =>
    if s.finished then ⟨s.tokens.reverse, none⟩
    else
      match s.next with
      | .error t => ⟨s.released, some t⟩
      | .ok s => from_ fuel s

/-- The characters that a document may hold. -/
def isAllowed (c : Char) : Bool :=
  c == '\t' || c == '\n' || c == '\r' || (' ' ≤ c && c ≤ '~') || c == '\x85' ||
    ('\xa0' ≤ c && c ≤ '\ud7ff') || ('\ue000' ≤ c && c ≤ '\ufffd') || 0x10000 ≤ c.toNat

/-- The tokens of a document. -/
def ofChars (standIns : Text.StandIns) (cs : List Char) : Tokens :=
  if cs.all isAllowed then from_ (cs.length + 2) { cursor := ⟨cs, 0, 0, 0⟩, standIns }
  else ⟨[], some .malformed⟩

end Tokens

end Scaffold.Yaml
