import Scaffold.Failure

/-! # Grammars of names

Names go into generated text as they are, so each kind of name has a small ASCII grammar, and
checking a name either lets it through or says what was wrong with it.
-/

namespace Scaffold.Name

def isLetter (c : Char) : Bool := ('A' ≤ c && c ≤ 'Z') || ('a' ≤ c && c ≤ 'z')

def isWordStart (c : Char) : Bool := isLetter c || c == '_'

/-- Letters, digits and the underscore. -/
def isWordChar (c : Char) : Bool := isWordStart c || ('0' ≤ c && c ≤ '9')

/-- A first character of one class and further characters of another. -/
def matchesB (first rest : Char → Bool) : List Char → Bool
  | [] => false
  | c :: cs => first c && cs.all rest

theorem matchesB_iff {first rest : Char → Bool} {cs : List Char} :
    matchesB first rest cs = true ↔
      ∃ c t, cs = c :: t ∧ first c = true ∧ ∀ d ∈ t, rest d = true := by
  cases cs with
  | nil => simp [matchesB]
  | cons c t =>
    simp only [matchesB, Bool.and_eq_true, List.all_eq_true, List.cons.injEq]
    constructor
    · rintro ⟨hc, ht⟩
      exact ⟨c, t, ⟨rfl, rfl⟩, hc, ht⟩
    · rintro ⟨_, _, ⟨rfl, rfl⟩, hc, ht⟩
      exact ⟨hc, ht⟩

/-- A letter or underscore, then letters, digits and underscores. -/
def isIdentifier (cs : List Char) : Bool := matchesB isWordStart isWordChar cs

def isProjectName (cs : List Char) : Bool :=
  matchesB isLetter (fun c => isWordChar c || c == '-') cs

/-- Like a project name, but without underscores. -/
def isWorkerName (cs : List Char) : Bool :=
  matchesB isLetter (fun c => (isWordChar c && c != '_') || c == '-') cs

def isTypeChar (c : Char) : Bool :=
  isWordChar c || c == '<' || c == '>' || c == ',' || c == ' ' || c == '?'

/-- A type name with generics and nullability; as many brackets open as close. -/
def isTypeName (cs : List Char) : Bool :=
  matchesB isWordStart isTypeChar cs && cs.count '<' == cs.count '>'

def isRouteChar (c : Char) : Bool := isWordChar c || c == '/' || c == ':' || c == '-'

/-- A slash, then letters, digits, underscores, hyphens, slashes and colons. -/
def isRoutePath (cs : List Char) : Bool := matchesB (· == '/') isRouteChar cs

def checkIdentifier (value role : String) : Except Failure Unit :=
  if isIdentifier value.toList then .ok ()
  else .error (Complaint.illFormed value role .identifier)

def checkTypeName (value role : String) : Except Failure Unit :=
  if isTypeName value.toList then .ok ()
  else .error (Complaint.illFormed value role .typeName)

def checkRoutePath (value : String) : Except Failure Unit :=
  if isRoutePath value.toList then .ok ()
  else .error (Complaint.illFormed value "route path" .routePath)

def checkProjectName (value : String) : Except Failure Unit :=
  if isProjectName value.toList then .ok () else .error (Complaint.projectName value)

def checkWorkerName (value : String) : Except Failure Unit :=
  if isWorkerName value.toList then .ok () else .error (Complaint.workerName value)

end Scaffold.Name
