import Scaffold.Failure

/-! # Places in a document

A cursor is the rest of a document together with the line and column at which it starts. Line ends
are the usual three, the next-line character, and the two Unicode separators, which are kept when
a text goes over several lines.
-/

namespace Scaffold.Yaml

/-- Why a document has no value: it breaks a rule of the format, or one of its scalars does not say
what its tag asks for. -/
inductive Trouble
  | malformed
  | fault (f : Fault)
  deriving DecidableEq, Repr

def isBreak (c : Char) : Bool :=
  c == '\n' || c == '\r' || c == '\x85' || c == '\u2028' || c == '\u2029'

/-- A character other than those that separate words and lines. -/
def isInk (c : Char) : Bool := !(c == ' ' || c == '\t' || isBreak c)

structure Cursor where
  rest : List Char
  index : Nat := 0
  line : Nat := 0
  column : Nat := 0

namespace Cursor

/-- One character further; a byte order mark takes no column. -/
def step (c : Cursor) : Cursor :=
  match c.rest with
  | [] => c
  | ch :: cs =>
    if isBreak ch && !(ch == '\r' && cs.head? == some '\n') then ⟨cs, c.index + 1, c.line + 1, 0⟩
    else ⟨cs, c.index + 1, c.line, if ch = '\ufeff' then c.column else c.column + 1⟩

def advance : Nat → Cursor → Cursor
  | 0, c => c
  | n + 1, c => advance n c.step

def peek? (c : Cursor) : Option Char := c.rest.head?

/-- Whether the next character is there and satisfies `p`. -/
def sees (p : Char → Bool) (c : Cursor) : Bool := c.rest.head?.any p

/-- Whether the document ends here or the next character satisfies `p`. -/
def endsOr (p : Char → Bool) (c : Cursor) : Bool := c.rest.head?.all p

/-- The characters from here on that satisfy `p`, and the place after them. -/
def takeWhile (p : Char → Bool) (c : Cursor) : List Char × Cursor :=
  let cs := c.rest.takeWhile p
  (cs, c.advance cs.length)

def skipWhile (p : Char → Bool) (c : Cursor) : Cursor := (c.takeWhile p).2

def skipSpaces (c : Cursor) : Cursor := c.skipWhile (· == ' ')

/-- A comment up to the end of its line, if there is one here. -/
def skipComment (c : Cursor) : Cursor :=
  if c.sees (· == '#') then c.skipWhile (!isBreak ·) else c

/-- A line end here, as the character that it is read as. -/
def lineBreak? (c : Cursor) : Option (Char × Cursor) :=
  match c.rest with
  | '\r' :: '\n' :: _ => some ('\n', c.advance 2)
  | ch :: _ =>
    if isBreak ch then some (if ch = '\u2028' ∨ ch = '\u2029' then ch else '\n', c.step) else none
  | [] => none

/-- Whether the three characters here are `mark`, with a blank or the end after them. -/
def atMark (mark : List Char) (c : Cursor) : Bool :=
  c.rest.take 3 == mark && (c.rest.drop 3).head?.all (!isInk ·)

def atDocumentStart (c : Cursor) : Bool := c.atMark ['-', '-', '-']

def atDocumentEnd (c : Cursor) : Bool := c.atMark ['.', '.', '.']

/-- A line that separates documents. -/
def atSeparator (c : Cursor) : Bool := c.atDocumentStart || c.atDocumentEnd

/-- The rest of a line that may hold blanks and a comment only. -/
def endLine (c : Cursor) : Except Trouble Cursor :=
  let c := c.skipSpaces.skipComment
  match c.lineBreak? with
  | some (_, next) => .ok next
  | none => if c.rest.isEmpty then .ok c else .error .malformed

end Cursor

end Scaffold.Yaml
