import Scaffold.Text.CharClass

/-! # Blank characters

The characters that separate the words of a name and that trimming removes: the control
characters from tab to carriage return, the four separators before the space, the space, the next
line and no-break space, and the Unicode spaces and line separators. Zero-width characters and the
byte order mark are not blank.
-/

namespace Scaffold.Text

def blanks : CharClass :=
  [(0x9, 0xD), (0x1C, 0x20), (0x85, 0x85), (0xA0, 0xA0), (0x1680, 0x1680), (0x2000, 0x200A),
    (0x2028, 0x2029), (0x202F, 0x202F), (0x205F, 0x205F), (0x3000, 0x3000)]

def isBlank (c : Char) : Bool := blanks.has c

/-- The text without the blanks at its start. -/
def trimStart (cs : List Char) : List Char := cs.dropWhile isBlank

/-- The text without the blanks at its end. -/
def trimEnd : List Char → List Char
  | [] => []
  | c :: cs =>
    match trimEnd cs with
    | [] => if isBlank c then [] else [c]
    | d :: ds => c :: d :: ds

def trim (cs : List Char) : List Char := trimEnd (trimStart cs)

end Scaffold.Text
