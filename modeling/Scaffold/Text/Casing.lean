import Scaffold.Text.CaseTable
import Scaffold.Text.CaseContext

/-! # Changing case

Full case conversion: a character may become several, and a capital sigma at the end of a word
becomes the final one. All other conversions look at one character alone.
-/

namespace Scaffold.Text

def convert (special : List (Nat × List Nat)) (runs : List CaseRun) (c : Char) : List Char :=
  match special.lookup c.toNat with
  | some cs => cs.map Char.ofNat
  | none =>
    match runs.find? (·.contains c.toNat) with
    | some r => [Char.ofNat (r.image c.toNat)]
    | none => [c]

/-- The small form of a character outside any word. -/
def lowerChar (c : Char) : List Char := convert lowerExpansions lowerRuns c

def upperChar (c : Char) : List Char := convert upperExpansions upperRuns c

/-- The form of a character at the head of a capitalised word. -/
def titleChar (c : Char) : List Char :=
  match titleExceptions.lookup c.toNat with
  | some cs => cs.map Char.ofNat
  | none => if titleFixed.has c then [c] else upperChar c

/-- Whether a letter with a case stands next before the position after `c`. -/
def casedAfter (before : Bool) (c : Char) : Bool :=
  if caseIgnorable.has c then before else cased.has c

/-- Whether the next character that counts has a case. -/
def casedAhead : List Char → Bool
  | [] => false
  | c :: cs => if caseIgnorable.has c then casedAhead cs else cased.has c

/-- Small letters; `before` says whether a letter with a case precedes. -/
def lowerFrom (before : Bool) : List Char → List Char
  | [] => []
  | c :: cs =>
    (if c = 'Σ' then [if before && !casedAhead cs then 'ς' else 'σ'] else lowerChar c) ++
      lowerFrom (casedAfter before c) cs

def lower (cs : List Char) : List Char := lowerFrom false cs

/-- The first character in its head form and the others small. -/
def capitalize : List Char → List Char
  | [] => []
  | c :: cs => titleChar c ++ lowerFrom (casedAfter false c) cs

end Scaffold.Text
