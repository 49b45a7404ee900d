import Scaffold.Failure

/-! # Choices

A word on the command line chooses one of a few things; any other word is refused with the list of
the words that would do.
-/

namespace Scaffold

/-- The thing that a word chooses. -/
def choose {α : Type} (what plural : String) (word : α → String) (all : List α) (value : String) :
    Except Failure α :=
  match all.find? fun a => word a = value with
  | some a => .ok a
  | none => .error (Complaint.unknownChoice what plural value (all.map word))

end Scaffold
