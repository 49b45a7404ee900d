import Scaffold.Yaml.Token.Basic

/-! # Plain scalars

A plain scalar has no quotes. It ends before a colon or comment sign that has a blank at its side,
in the flow style also before the signs of that style, and before a line that is indented less.
-/

namespace Scaffold.Yaml.Cursor

/-- The signs that end a plain scalar in the flow style. -/
def isFlowSign (c : Char) : Bool := [',', '?', '[', ']', '\x7b', '\x7d'].contains c

/-- Whether a colon before this character ends a plain scalar. -/
def endsKey (flow : Bool) (c : Char) : Bool := !isInk c || (flow && c != '?' && isFlowSign c)

def plainChunk (flow : Bool) : List Char → List Char
  | [] => []
  | c :: cs =>
    if !isInk c || (c == ':' && cs.head?.all (endsKey flow)) || (flow && isFlowSign c) then []
    else c :: plainChunk flow cs

/-- Blank lines and the blanks before the next character; nothing if documents end here. -/
def plainBreaks : Nat → Cursor → Option (List Char) × Cursor
  | 0, c => (some [], c)
  | fuel + 1, c =>
    if c.sees (· == ' ') then plainBreaks fuel c.step
    else
      match c.lineBreak? with
      | none => (some [], c)
      | some (b, next) =>
        if next.atSeparator then (none, next)
        else
          let (breaks, last) := plainBreaks fuel next
          (breaks.map (b :: ·), last)

/-- What the blanks here stand for inside a plain scalar, the place after them, and whether they go
over a line end. -/
def plainSpaces (c : Cursor) : List Char × Cursor × Bool :=
  let (spaces, c) := c.takeWhile (· == ' ')
  match c.lineBreak? with
  | none => (spaces, c, false)
  | some (b, next) =>
    if next.atSeparator then ([], next, true)
    else
      match plainBreaks (next.rest.length + 1) next with
      | (none, last) => ([], last, true)
      | (some breaks, last) =>
        let first := if b ≠ '\n' then [b] else if breaks.isEmpty then [' '] else []
        (first ++ breaks, last, true)

/-- The scalar from here on; `spaces` stand before the next chunk if there is one. -/
def plainFrom (flow : Bool) (indent : Int) (crossed : Bool) (spaces : List Char) :
    Nat → Cursor → List Char × Cursor × Bool
  | 0, c => ([], c, crossed)
  | fuel + 1, c =>
    let chunk := if c.sees (· == '#') then [] else plainChunk flow c.rest
    if chunk.isEmpty then ([], c, crossed)
    else
      let (next, after, crossed) := plainSpaces (c.advance chunk.length)
      if next.isEmpty || after.sees (· == '#') || (!flow && decide ((after.column : Int) < indent))
      then (spaces ++ chunk, after, crossed)
      else
        let (more, last, crossed) := plainFrom flow indent crossed next fuel after
        (spaces ++ chunk ++ more, last, crossed)

/-- The text of a plain scalar, the place after it, and whether a line end was passed last. -/
def plain (flow : Bool) (indent : Int) (c : Cursor) : List Char × Cursor × Bool :=
  plainFrom flow indent false [] (c.rest.length + 1) c

end Scaffold.Yaml.Cursor
