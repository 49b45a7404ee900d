import Scaffold.Text.Digit
import Scaffold.Yaml.Token.Basic

/-! # Quoted scalars

Between single quotes only the quote is written in another way, twice. Between double quotes a
backslash starts an escape. A line end inside either is read as a blank, blank lines as line ends.
-/

namespace Scaffold.Yaml.Cursor

/-- Escapes of one letter. -/
def escapes : List (Char × Char) :=
  [('0', '\x00'), ('a', '\x07'), ('b', '\x08'), ('t', '\t'), ('\t', '\t'), ('n', '\n'),
    ('v', '\x0b'), ('f', '\x0c'), ('r', '\r'), ('e', '\x1b'), (' ', ' '), ('"', '"'),
    ('\\', '\\'), ('/', '/'), ('N', '\x85'), ('_', '\xa0'), ('L', '\u2028'), ('P', '\u2029')]

/-- Escapes by code point, with the number of their digits. -/
def codeEscapes : List (Char × Nat) := [('x', 2), ('u', 4), ('U', 8)]

/-- The blank lines here, which stand for line ends. -/
def quotedBreaks : Nat → Cursor → Except Trouble (List Char × Cursor)
  | 0, c => .ok ([], c)
  | fuel + 1, c =>
    if c.atSeparator then .error .malformed
    else
      let c := c.skipWhile fun d => d == ' ' || d == '\t'
      match c.lineBreak? with
      | none => .ok ([], c)
      | some (b, next) => do
        let (breaks, c) ← quotedBreaks fuel next
        return (b :: breaks, c)

/-- What the blanks here stand for inside quotes. -/
def quotedSpaces (c : Cursor) : Except Trouble (List Char × Cursor) :=
  let (spaces, c) := c.takeWhile fun d => d == ' ' || d == '\t'
  match c.lineBreak? with
  | none => if c.rest.isEmpty then .error .malformed else .ok (spaces, c)
  | some (b, next) => do
    let (breaks, c) ← quotedBreaks (next.rest.length + 1) next
    let first := if b ≠ '\n' then [b] else if breaks.isEmpty then [' '] else []
    return (first ++ breaks, c)

/-- The number written by exactly `n` digits of base sixteen. -/
def hexNumber? (n : Nat) (cs : List Char) : Option Nat :=
  if cs.length < n then none
  else (cs.take n).foldlM (fun m d => (Text.hexValue? d).map (m * 16 + ·)) 0

/-- The characters written by the escape after a backslash. Two surrogates are not put together. -/
def escape (standIns : Text.StandIns) (c : Cursor) : Except Trouble (List Char × Cursor) :=
  match c.rest with
  | [] => .error .malformed
  | d :: cs =>
    match escapes.lookup d, codeEscapes.lookup d with
    | some e, _ => .ok ([e], c.step)
    | none, some n =>
      match hexNumber? n cs with
      | none => .error .malformed
      | some code =>
        if Nat.pow 2 31 ≤ code then .error (.fault .hugeCodePoint)
        else if 0x110000 ≤ code then .error (.fault .codePoint)
        else .ok ([standIns.char code], c.advance (n + 1))
    | none, none =>
      match c.lineBreak? with
      | some (_, next) => quotedBreaks (next.rest.length + 1) next
      | none => .error .malformed

/-- The scalar after its opening quote. -/
def quotedFrom (standIns : Text.StandIns) (double : Bool) :
    Nat → Cursor → Except Trouble (List Char × Cursor)
  | 0, _ => .error .malformed
  | fuel + 1, c =>
    let quote := if double then '"' else '\''
    match c.rest with
    | [] => .error .malformed
    | d :: cs =>
      if d = quote then
        if !double && cs.head? == some quote then do
          let (more, last) ← quotedFrom standIns double fuel (c.advance 2)
          return (quote :: more, last)
        else .ok ([], c.step)
      else do
        let (first, next) ←
          if !isInk d then c.quotedSpaces
          else if double && d == '\\' then c.step.escape standIns
          else .ok ([d], c.step)
        let (more, last) ← quotedFrom standIns double fuel next
        return (first ++ more, last)

/-- The text of a quoted scalar and the place after it. -/
def quoted (standIns : Text.StandIns) (double : Bool) (c : Cursor) :
    Except Trouble (List Char × Cursor) :=
  quotedFrom standIns double (c.rest.length + 1) c.step

end Scaffold.Yaml.Cursor
