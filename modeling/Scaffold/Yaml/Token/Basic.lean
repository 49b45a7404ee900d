import Scaffold.Yaml.Cursor

/-! # Tokens

What a document is made of: marks of the block and flow styles, names, tags and scalars.
-/

namespace Scaffold.Yaml

inductive Directive
  | version (major : Nat)
  | tag (handle start : String)
  | other
  deriving DecidableEq, Repr

inductive Token
  | directive (d : Directive)
  | documentStart
  | documentEnd
  | streamEnd
  | blockSequenceStart
  | blockMappingStart
  | blockEnd
  | flowSequenceStart
  | flowMappingStart
  | flowSequenceEnd
  | flowMappingEnd
  | blockEntry
  | flowEntry
  | key
  | value
  | reference (name : String)
  | anchor (name : String)
  | tag (handle : Option String) (suffix : String)
  | scalar (text : List Char) (plain : Bool)
  deriving DecidableEq, Repr

end Scaffold.Yaml
