import Scaffold.Yaml.Token.Basic

/-! # Block scalars

The lines that are indented below a block sign. A literal scalar keeps its line ends, a folded one
reads a single line end between two texts as a blank. The sign says whether the line ends after the
last text are kept, dropped, or reduced to one.
-/

namespace Scaffold.Yaml

inductive Chomping
  | keep
  | strip
  | clip
  deriving DecidableEq, Repr

namespace Cursor

def chomping? (c : Char) : Option Chomping :=
  if c = '+' then some .keep else if c = '-' then some .strip else none

def isDigit (c : Char) : Bool := '0' ≤ c && c ≤ '9'

/-- An indentation digit here, which is not zero. -/
def increment (c : Cursor) : Except Trouble (Option Nat × Cursor) :=
  match c.rest with
  | d :: _ =>
    if d = '0' then .error .malformed
    else if isDigit d then .ok (some (d.toNat - '0'.toNat), c.step)
    else .ok (none, c)
  | [] => .ok (none, c)

/-- The sign of a block scalar after its first character: how to end it and how far it is
indented, in either order. -/
def blockHeader (c : Cursor) : Except Trouble (Chomping × Option Nat × Cursor) := do
  let (chomping, indent, c) ←
    match c.peek?.bind chomping? with
    | some k => do
      let (n, c) ← c.step.increment
      pure (k, n, c)
    | none => do
      let (n, c) ← c.increment
      match n, c.peek?.bind chomping? with
      | some n, some k => pure (k, some n, c.step)
      | n, _ => pure (Chomping.clip, n, c)
  if c.endsOr fun d => d == ' ' || isBreak d then return (chomping, indent, ← c.endLine)
  else .error .malformed

/-- The blank lines before the first text, and the deepest column among them and it. -/
def blockIndentation : Nat → Nat → Cursor → List Char × Nat × Cursor
  | 0, deepest, c => ([], deepest, c)
  | fuel + 1, deepest, c =>
    if c.sees (· == ' ') then
      let c := c.step
      blockIndentation fuel (max deepest c.column) c
    else
      match c.lineBreak? with
      | none => ([], deepest, c)
      | some (b, next) =>
        let (breaks, deepest, c) := blockIndentation fuel deepest next
        (b :: breaks, deepest, c)

/-- Blanks up to the column `indent`. -/
def indentTo (indent : Nat) : Nat → Cursor → Cursor
  | 0, c => c
  | fuel + 1, c =>
    if c.column < indent && c.sees (· == ' ') then indentTo indent fuel c.step else c

/-- The blank lines before the next text. -/
def blockBreaks (indent : Nat) : Nat → Cursor → List Char × Cursor
  | 0, c => ([], c)
  | fuel + 1, c =>
    let c := indentTo indent c.rest.length c
    match c.lineBreak? with
    | none => ([], c)
    | some (b, next) =>
      let (breaks, c) := blockBreaks indent fuel next
      (b :: breaks, c)

/-- The lines of a block scalar from here on, where `breaks` are the blank lines before them: the
text, the last line end, the blank lines after it, and the place after them. -/
def blockLines (folded : Bool) (indent : Nat) (ending breaks : List Char) :
    Nat → Cursor → List Char × List Char × List Char × Cursor
  | 0, c => ([], ending, breaks, c)
  | fuel + 1, c =>
    if c.column = indent ∧ ¬ c.rest.isEmpty then
      let isText := !(c.sees fun d => d == ' ' || d == '\t')
      let (line, c) := c.takeWhile (!isBreak ·)
      let (ending, c) := match c.lineBreak? with
        | some (b, next) => ([b], next)
        | none => ([], c)
      let (after, c) := blockBreaks indent (c.rest.length + 1) c
      let between :=
        if c.column = indent ∧ ¬ c.rest.isEmpty then
          if folded && ending == ['\n'] && isText && !(c.sees fun d => d == ' ' || d == '\t') then
            if after.isEmpty then [' '] else []
          else ending
        else []
      let (more, ending, after, c) := blockLines folded indent ending after fuel c
      (breaks ++ line ++ between ++ more, ending, after, c)
    else ([], ending, breaks, c)

/-- The text of a block scalar inside a block that is indented to `parent`. -/
def block (folded : Bool) (parent : Int) (c : Cursor) : Except Trouble (List Char × Cursor) := do
  let (chomping, increment, c) ← c.step.blockHeader
  let least := (max (parent + 1) 1).toNat
  let (breaks, indent, c) :=
    match increment with
    | none =>
      let (breaks, deepest, c) := blockIndentation (c.rest.length + 1) 0 c
      (breaks, max least deepest, c)
    | some n =>
      let indent := least + n - 1
      let (breaks, c) := blockBreaks indent (c.rest.length + 1) c
      (breaks, indent, c)
  let (text, ending, breaks, c) := blockLines folded indent [] breaks (c.rest.length + 1) c
  let tail := match chomping with
    | .keep => ending ++ breaks
    | .clip => ending
    | .strip => []
  return (text ++ tail, c)

end Cursor

end Scaffold.Yaml
