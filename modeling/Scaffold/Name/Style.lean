import Scaffold.Text.Blank
import Scaffold.Text.Casing

/-! # Naming styles

A name is respelled for the place it goes to: words joined by underscores or hyphens in small
letters, or run together with capitals. In the joined styles every capital ASCII letter starts a
word and a run of the separators that do not belong to the style becomes one separator.
-/

namespace Scaffold.Name

def isCapital (c : Char) : Bool := 'A' ≤ c && c ≤ 'Z'

/-- A separator in front of every capital. -/
def markCapitals (sep : Char) (cs : List Char) : List Char :=
  cs.flatMap fun c => if isCapital c then [sep, c] else [c]

/-- Each run of separators is written as one `sep`; `inRun` says whether a run is under way. -/
def collapse (isSep : Char → Bool) (sep : Char) (inRun : Bool) : List Char → List Char
  | [] => []
  | c :: cs =>
    if isSep c then
      if inRun then collapse isSep sep true cs else sep :: collapse isSep sep true cs
    else c :: collapse isSep sep false cs

def dropLeading (sep : Char) : List Char → List Char
  | [] => []
  | c :: cs => if c = sep then cs else c :: cs

/-- Words in small letters joined by `sep`, where `other` is the joiner of the other style. -/
def joined (sep other : Char) (cs : List Char) : List Char :=
  dropLeading sep <| Text.lower <|
    collapse (fun c => c == other || Text.isBlank c) sep false (markCapitals sep cs)

def snakeChars (cs : List Char) : List Char := joined '_' '-' cs

def kebabChars (cs : List Char) : List Char := joined '-' '_' cs

def isSeparator (c : Char) : Bool := c == '-' || c == '_' || Text.isBlank c

/-- The words run together, each but the first with a capital; `head` says whether the next
character starts a word after a separator. -/
def runTogether (head : Bool) : List Char → List Char
  | [] => []
  | c :: cs =>
    if isSeparator c then runTogether true cs
    else (if head then Text.upperChar c else [c]) ++ runTogether false cs

def camelChars (cs : List Char) : List Char :=
  match runTogether false cs with
  | [] => []
  | c :: rest => Text.lower [c] ++ rest

def pascalChars (cs : List Char) : List Char :=
  match runTogether false cs with
  | [] => []
  | c :: rest => Text.upperChar c ++ rest

/-- Words joined by underscores, as in `created_at`. -/
def snake (s : String) : String := String.ofList (snakeChars s.toList)

/-- Words joined by hyphens, as in `created-at`. -/
def kebab (s : String) : String := String.ofList (kebabChars s.toList)

/-- Words run together after a small letter, as in `createdAt`. -/
def camel (s : String) : String := String.ofList (camelChars s.toList)

/-- Words run together after a capital, as in `CreatedAt`. -/
def pascal (s : String) : String := String.ofList (pascalChars s.toList)

end Scaffold.Name
