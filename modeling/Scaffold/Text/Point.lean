/-! # Code points

A text that comes from outside is a sequence of code points. Besides characters there may be
surrogates among them: a byte of a name or an argument that is not UTF-8 is read as one, and an
escape in a document can write one. UTF-8 has no bytes for them.

In the texts of a run they are stood for by private characters, a block of them that the texts do
not hold otherwise.
-/

namespace Scaffold.Text

/-- A code point: a character, or a surrogate by its place among them. -/
inductive Point
  | char (c : Char)
  | surrogate (n : Fin 0x800)
  deriving DecidableEq, Repr

namespace Point

def code : Point → Nat
  | char c => c.toNat
  | surrogate n => 0xD800 + n

def char? : Point → Option Char
  | char c => some c
  | surrogate _ => none

/-- One of the surrogates from U+DC80 to U+DCFF, which are bytes that could not be read. -/
def isByte : Point → Bool
  | char _ => false
  | surrogate n => 0x480 ≤ n.val && n.val < 0x500

end Point

instance : Coe String (List Point) := ⟨fun s => s.toList.map .char⟩

/-- The block of private characters that stand for surrogates. -/
structure StandIns where
  first : Nat
  inPlanes : 0xF0000 ≤ first ∧ first + 0x800 ≤ 0x110000

namespace StandIns

/-- A block near the end of the private characters. -/
def usual : StandIns := ⟨0x10F800, by decide⟩

/-- What a character of a run is. -/
def point (s : StandIns) (c : Char) : Point :=
  if h : s.first ≤ c.toNat ∧ c.toNat < s.first + 0x800 then
    .surrogate ⟨c.toNat - s.first, by omega⟩
  else .char c

def points (s : StandIns) (text : String) : List Point := text.toList.map s.point

def code (s : StandIns) (c : Char) : Nat := (s.point c).code

/-- The character with a code, or the one that stands for the surrogate with it. -/
def char (s : StandIns) (code : Nat) : Char :=
  if 0xD800 ≤ code ∧ code < 0xE000 then Char.ofNat (s.first + (code - 0xD800))
  else Char.ofNat code

end StandIns

end Scaffold.Text
