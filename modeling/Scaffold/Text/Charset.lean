import Scaffold.Text.Point

/-! # Encodings

A text is written to a file or a stream in an encoding. If that has no bytes for a part of the
text, nothing of the text is written, and the first such part is reported by its place.
-/

namespace Scaffold.Text

/-- The points from `first` to `last` cannot be written; `code` is that of the first of them. -/
structure Unencodable where
  codec : String
  code : Nat
  first : Nat
  last : Nat
  reason : String
  deriving DecidableEq, Repr

/-- An encoding by what can be written in it. -/
structure Charset where
  codec : String
  has : Point → Bool
  /-- What the codec does not have and is written all the same, in a way of its own. -/
  spares : Point → Bool := fun _ => false
  reason : String

namespace Charset

def utf8 : Charset where
  codec := "utf-8"
  has p := p.char?.isSome
  reason := "surrogates not allowed"

/-- Names of files, in which bytes that are not UTF-8 are kept. -/
def names : Charset := { utf8 with spares := Point.isByte }

/-- The first part of a text that cannot be written. -/
def refusal? (s : Charset) (ps : List Point) : Option Unencodable :=
  let good := ps.takeWhile fun p => s.has p || s.spares p
  match ps.drop good.length with
  | [] => none
  | p :: rest =>
    let first := good.length
    some ⟨s.codec, p.code, first, first + (rest.takeWhile (!s.has ·)).length, s.reason⟩

end Charset

/-- The bytes of a text in UTF-8. -/
def encode (ps : List Point) : Except Unencodable (List UInt8) :=
  match Charset.utf8.refusal? ps with
  | some e => .error e
  | none => .ok (String.ofList (ps.filterMap Point.char?)).toUTF8.toList

end Scaffold.Text
