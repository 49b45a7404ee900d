import Scaffold.Name.Style
import Scaffold.Text.Split

/-! # Singular and plural

English plurals by their endings, with a short list of irregular nouns. An irregular noun is found
in any case and keeps a capital at its head.
-/

namespace Scaffold.Name

/-- Irregular nouns, plural first. -/
def irregulars : List (List Char × List Char) :=
  [("children".toList, "child".toList), ("people".toList, "person".toList),
    ("men".toList, "man".toList), ("women".toList, "woman".toList),
    ("mice".toList, "mouse".toList), ("data".toList, "datum".toList),
    ("criteria".toList, "criterion".toList), ("indices".toList, "index".toList),
    ("matrices".toList, "matrix".toList)]

/-- A word with the capital, if any, of the text it stands for. -/
def likeCase (model word : List Char) : List Char :=
  match model with
  | c :: _ => if isCapital c then Text.capitalize word else word
  | [] => word

/-- What comes before an ending, when something does. -/
def stem? (ending : String) (cs : List Char) : Option (List Char) :=
  (Text.before? ending.toList cs).filter (· ≠ [])

/-- Endings whose plural adds two letters. -/
def sibilants : List String := ["ses", "xes", "zes", "ches", "shes"]

def singularChars (cs : List Char) : List Char :=
  match irregulars.find? fun w => w.1 = Text.lower cs with
  | some w => likeCase cs w.2
  | none =>
    match stem? "ies" cs with
    | some stem => stem ++ ['y']
    | none =>
      if sibilants.any fun e => (stem? e cs).isSome then cs.take (cs.length - 2)
      else
        match stem? "s" cs with
        | some stem => if (Text.before? ['s', 's'] cs).isSome then cs else stem
        | none => cs

def isVowel (c : Char) : Bool := ['a', 'e', 'i', 'o', 'u'].contains c

/-- A `y` after a character other than a vowel. -/
def endsInConsonantY (cs : List Char) : Bool :=
  match cs.reverse with
  | 'y' :: c :: _ => !(match Text.lower [c] with
      | [d] => isVowel d
      | _ => false)
  | _ => false

def pluralChars (cs : List Char) : List Char :=
  match irregulars.find? fun w => w.2 = Text.lower cs with
  | some w => likeCase cs w.1
  | none =>
    if endsInConsonantY cs then cs.take (cs.length - 1) ++ ['i', 'e', 's']
    else if ["s", "x", "z", "ch", "sh"].any fun e => (Text.before? e.toList cs).isSome then
      cs ++ ['e', 's']
    else cs ++ ['s']

def singularize (s : String) : String := String.ofList (singularChars s.toList)

def pluralize (s : String) : String := String.ofList (pluralChars s.toList)

end Scaffold.Name
