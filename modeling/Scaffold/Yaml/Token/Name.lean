import Scaffold.Text.Digit
import Scaffold.Yaml.Token.Basic

/-! # Names, tags and directives

Anchors and references are words. A tag is written in full between angle brackets, or as a handle
and what follows it; a directive stands on a line of its own.
-/

namespace Scaffold.Yaml

def isAsciiAlnum (c : Char) : Bool :=
  ('0' ≤ c && c ≤ '9') || ('A' ≤ c && c ≤ 'Z') || ('a' ≤ c && c ≤ 'z')

def isNameChar (c : Char) : Bool := isAsciiAlnum c || c == '-' || c == '_'

def isUriChar (c : Char) : Bool :=
  isAsciiAlnum c || "-;/?:@&=+$,_.!~*'()[]%".toList.contains c

/-- A blank other than the tab. -/
def isSpaceOrBreak (c : Char) : Bool := c == ' ' || isBreak c

namespace Cursor

/-- The name after an anchor or reference sign. -/
def name (c : Cursor) : Except Trouble (String × Cursor) :=
  let (cs, c) := c.step.takeWhile isNameChar
  if cs.isEmpty then .error .malformed
  else if c.endsOr fun d => !isInk d || "?:,]\x7d%@`".toList.contains d then
    .ok (String.ofList cs, c)
  else .error .malformed

/-- The bytes that are written as two digits after a percent sign each. -/
def escapedBytes : Nat → Cursor → Except Trouble (List UInt8 × Cursor)
  | 0, c => .ok ([], c)
  | fuel + 1, c =>
    match c.rest with
    | '%' :: a :: b :: _ =>
      match Text.hexValue? a, Text.hexValue? b with
      | some x, some y => do
        let (bytes, c) ← escapedBytes fuel (c.advance 3)
        return (UInt8.ofNat (x * 16 + y) :: bytes, c)
      | _, _ => .error .malformed
    | '%' :: _ => .error .malformed
    | _ => .ok ([], c)

/-- The characters of a tag, escapes decoded. -/
def uriChars : Nat → Cursor → Except Trouble (List Char × Cursor)
  | 0, c => .ok ([], c)
  | fuel + 1, c =>
    match c.rest with
    | '%' :: _ => do
      let (bytes, c) ← escapedBytes c.rest.length c
      match Text.decodeUtf8 bytes with
      | .error _ => .error .malformed
      | .ok cs =>
        let (more, c) ← uriChars fuel c
        return (cs ++ more, c)
    | ch :: _ =>
      if isUriChar ch then do
        let (more, c) ← uriChars fuel c.step
        return (ch :: more, c)
      else .ok ([], c)
    | [] => .ok ([], c)

def uri (c : Cursor) : Except Trouble (String × Cursor) :=
  if c.sees isUriChar then do
    let (cs, c) ← uriChars c.rest.length c
    return (String.ofList cs, c)
  else .error .malformed

/-- A handle: one exclamation mark, or a word between two. -/
def handle (c : Cursor) : Except Trouble (String × Cursor) :=
  if c.sees (· == '!') then
    let (cs, after) := c.step.takeWhile isNameChar
    if c.step.sees (· == ' ') then .ok ("!", c.step)
    else if after.sees (· == '!') then .ok (String.ofList ('!' :: cs ++ ['!']), after.step)
    else .error .malformed
  else .error .malformed

/-- Whether a second exclamation mark comes before the next blank. -/
def hasHandle : List Char → Bool
  | [] => false
  | c :: cs => if isSpaceOrBreak c then false else c == '!' || hasHandle cs

/-- The tag at an exclamation mark. -/
def tag (c : Cursor) : Except Trouble (Token × Cursor) := do
  let (token, c) ←
    match c.step.rest with
    | '<' :: _ => do
      let (suffix, c) ← (c.advance 2).uri
      if c.sees (· == '>') then pure (Token.tag none suffix, c.step) else .error .malformed
    | cs =>
      if c.step.endsOr (!isInk ·) then pure (Token.tag none "!", c.step)
      else do
        let (head, c) ← if hasHandle cs then c.handle else pure ("!", c.step)
        let (suffix, c) ← c.uri
        pure (Token.tag (some head) suffix, c)
  if c.endsOr isSpaceOrBreak then return (token, c) else .error .malformed

def digits (c : Cursor) : Except Trouble (Nat × Cursor) :=
  let (cs, after) := c.takeWhile fun d => '0' ≤ d && d ≤ '9'
  if cs.isEmpty then .error .malformed
  else if Text.maxDigits < cs.length then .error (.fault (.longDigits cs.length))
  else .ok (cs.foldl (fun n d => n * 10 + (d.toNat - '0'.toNat)) 0, after)

/-- The directive at a percent sign, to the end of its line. -/
def directive (c : Cursor) : Except Trouble (Directive × Cursor) := do
  let (cs, c) := c.step.takeWhile isNameChar
  if cs.isEmpty || !c.endsOr isSpaceOrBreak then throw .malformed
  let (d, c) ←
    match String.ofList cs with
    | "YAML" => do
      let (major, c) ← c.skipSpaces.digits
      if !c.sees (· == '.') then throw .malformed
      let (_, c) ← c.step.digits
      if c.endsOr isSpaceOrBreak then pure (Directive.version major, c) else throw .malformed
    | "TAG" => do
      let (head, c) ← c.skipSpaces.handle
      if !c.sees (· == ' ') then throw .malformed
      let (start, c) ← c.skipSpaces.uri
      if c.endsOr isSpaceOrBreak then pure (Directive.tag head start, c) else throw .malformed
    | _ => pure (Directive.other, c.skipWhile (!isBreak ·))
  return (d, ← c.endLine)

end Cursor

end Scaffold.Yaml
