import Scaffold.Column.Basic
import Scaffold.Text.Blank

/-! # Reading column lines

A column line is a list of columns between commas, each `name:type` followed by modifiers:
`id:int:pk,title:text,userId:uuid:fk(auth.users.id)`. Blank columns are skipped and blanks around
every part are dropped. The first column that cannot be read decides the failure.
-/

namespace Scaffold.Column

inductive Modifier
  | primaryKey
  | autoIncrement
  | nullable
  | references (table column : String)
  | defaults (value : String)
  deriving DecidableEq, Repr

namespace Modifier

def primaryKeyWords : List String := ["pk", "primarykey", "primary_key"]

def autoIncrementWords : List String := ["autoincrement", "auto_increment", "serial"]

def nullableWords : List String := ["nullable", "null"]

/-- What follows a word written in any case. -/
def afterWord? : List Char → List Char → Option (List Char)
  | [], cs => some cs
  | _ :: _, [] => none
  | w :: ws, c :: cs => if Text.lowerChar c = [w] then afterWord? ws cs else none

/-- The text between the brackets of `word(…)`. -/
def argument? (word : String) (cs : List Char) : Option (List Char) :=
  match afterWord? word.toList cs with
  | some ('(' :: rest) => Text.before? [')'] rest
  | _ => none

/-- A reference is a dotted path: the table, which may be dotted itself, and the column. A path
without a dot names the table alone. -/
def ofReference (path : List Char) : Except Failure Modifier := do
  let parts := (Text.split '.' path).map String.ofList
  let (tables, column) :=
    match parts.reverse with
    | column :: table :: more => ((table :: more).reverse, column)
    | _ => (parts, Reference.defaultColumn)
  for table in tables do
    Name.checkIdentifier table "foreign key table"
  Name.checkIdentifier column "foreign key column"
  return references (String.intercalate "." tables) column

/-- The modifier written by a text without blanks around it. -/
def ofChars (definition : String) (cs : List Char) : Except Failure Modifier :=
  let word := String.ofList (Text.lower cs)
  if primaryKeyWords.contains word then .ok primaryKey
  else if autoIncrementWords.contains word then .ok autoIncrement
  else if nullableWords.contains word then .ok nullable
  else
    match (argument? "fk" cs).filter fun path => path ≠ [] ∧ ')' ∉ path with
    | some path => ofReference path
    | none =>
      match (argument? "default" cs).filter fun value => value ≠ [] ∧ '\n' ∉ value with
      | some value => .ok (defaults (String.ofList value))
      | none => .error (Complaint.columnModifier (String.ofList cs) definition)

/-- A column with one more thing said about it; the last word on a matter counts. -/
def apply (c : Column) : Modifier → Column
  | primaryKey => { c with primaryKey := true }
  | autoIncrement => { c with autoIncrement := true }
  | nullable => { c with nullable := true }
  | references table column => { c with reference := some ⟨some table, some column⟩ }
  | defaults value => { c with defaultValue := some value }

end Modifier

/-- The column written by one part of a column line. -/
def ofChars (cs : List Char) : Except Failure Column :=
  let definition := String.ofList cs
  match (Text.split ':' cs).map Text.trim with
  | name :: type :: modifiers =>
    if name = [] ∨ type = [] then .error (Complaint.columnBlank definition)
    else
      modifiers.foldlM (fun c m => Modifier.apply c <$> Modifier.ofChars definition m)
        { name := String.ofList name, kind := .ofAlias (String.ofList type) }
  | _ => .error (Complaint.columnShape definition)

/-- The parts of a column line that are not blank. -/
def parts (line : String) : List (List Char) :=
  ((Text.split ',' line.toList).map Text.trim).filter (· ≠ [])

/-- The columns of a column line, in order. -/
def parse (line : String) : Except Failure (List Column) := (parts line).mapM ofChars

end Scaffold.Column
