import Scaffold.Name.Grammar
import Scaffold.Template.Render
import Scaffold.Text.Blank

/-! # Models

An immutable model class with named fields. The fields are written as a line of `name:Type` pairs
between commas; a question mark at the end of a type lets the field be null, and a comma inside
angle brackets belongs to the type.
-/

namespace Scaffold

structure Field where
  name : String
  type : String
  nullable : Bool
  deriving DecidableEq, Repr

namespace Field

/-- The type of the field as it is written in the class. -/
def shownType (f : Field) : String := if f.nullable then f.type ++ "?" else f.type

/-- The parts of a field line between the commas that are outside of angle brackets; `depth` counts
the brackets that are open. -/
def segmentsFrom (depth : Int) : List Char → List (List Char)
  | [] => [[]]
  | c :: cs =>
    let depth := if c = '<' then depth + 1 else if c = '>' then depth - 1 else depth
    if c = ',' ∧ depth ≤ 0 then [] :: segmentsFrom depth cs
    else
      match segmentsFrom depth cs with
      | [] => [[c]]
      | s :: ss => (c :: s) :: ss

def segments (cs : List Char) : List (List Char) := segmentsFrom 0 cs

/-- The field written by one part of a field line; a part without a name or without a type writes
none. -/
def ofSegment (cs : List Char) : Except Failure (Option Field) := do
  let (name, type) := Text.cut ':' cs
  let name := Text.trim name
  let type := Text.trim (type.getD [])
  if name = [] ∨ type = [] then return none
  let (clean, nullable) :=
    match Text.before? ['?'] type with
    | some rest => (Text.trimEnd rest, true)
    | none => (type, false)
  let field : Field := ⟨String.ofList name, String.ofList clean, nullable⟩
  Name.checkIdentifier field.name "field name"
  Name.checkTypeName field.type "field type"
  return some field

/-- The fields of a field line, in order. -/
def parse (line : String) : Except Failure (List Field) := do
  return (← (segments line.toList).mapM ofSegment).filterMap id

def value (f : Field) : Value :=
  .map [(.text "name", .text f.name), (.text "dart_type", .text f.shownType),
    (.text "is_nullable", .bool f.nullable)]

end Field

namespace Model

def template : Packaged where
  category := "freezed"
  name := "model.dart"
  body :=
    .bind "class_name" (.pascal (.var "name")) <|
    .bind "file_name" (.snake (.var "name")) <|
    .text "import 'package:freezed_annotation/freezed_annotation.dart';\n\npart '" <|
    .emit (.var "file_name") <|
    .text ".freezed.dart';\npart '" <|
    .emit (.var "file_name") <|
    .text ".g.dart';\n\n@freezed\nclass " <|
    .emit (.var "class_name") <|
    .text " with _$" <|
    .emit (.var "class_name") <|
    .text " \x7b\n  const factory " <|
    .emit (.var "class_name") <|
    .text "(\x7b\n" <|
    .each "field" (.var "fields")
      (.text "    " <|
       .emit (.choose (.member (.var "field") "is_nullable")
          (.literal "") (.literal "required ")) <|
       .emit (.member (.var "field") "dart_type") <|
       .text " " <|
       .emit (.member (.var "field") "name") <|
       .text ",\n" <|
       .done) <|
    .text "  \x7d) = _" <|
    .emit (.var "class_name") <|
    .text ";\n\n  factory " <|
    .emit (.var "class_name") <|
    .text ".fromJson(Map<String, dynamic> json) =>\n      _$" <|
    .emit (.var "class_name") <|
    .text "FromJson(json);\n\x7d\n" <|
    .done

/-- The class of a model; it has at least one field. -/
def generate (name : String) (fields : Option String) : Except Failure String := do
  Name.checkIdentifier name "model name"
  let fields ← Field.parse (fields.getD "")
  if fields.isEmpty then throw (.complaint (.missing .fields))
  template.render [("name", .text name), ("fields", .list (fields.map Field.value))]

end Model

end Scaffold
