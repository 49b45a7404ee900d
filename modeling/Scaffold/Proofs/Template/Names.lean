import Scaffold.Proofs.Name.Spelling
import Scaffold.Proofs.Template.Lines

/-! # The names in a text

A name in a text is a word outside of comments and strings that an asked name went into, or an asked
name in the path of a file that a line refers to. Like its lines, the names of a text can be read
off its template.
-/

namespace Scaffold.Template

open Scaffold.Template.Symbol (ofText)

variable {α β : Type}

namespace Symbol

def breaksWord : Symbol α → Bool
  | char c => !Name.isWordChar c
  | value _ => false

def isNamed (named : α → Bool) : Symbol α → Bool
  | char _ => false
  | value a => named a

end Symbol

def startsWith : List Char → List (Symbol α) → Bool
  | [], _ => true
  | c :: cs, .char d :: line => d == c && startsWith cs line
  | _ :: _, _ => false

def isComment (line : List (Symbol α)) : Bool :=
  ["//", "#", "--"].any fun mark =>
    startsWith mark.toList (line.dropWhile (Symbol.isChar ' '))

def refersToFile (line : List (Symbol α)) : Bool :=
  startsWith "part '".toList line || startsWith "import '".toList line

def everyOther : List α → List α
  | [] => []
  | [a] => [a]
  | a :: _ :: as => a :: everyOther as

/-- The words of a line outside of strings. -/
def words (line : List (Symbol α)) : List (List (Symbol α)) :=
  (everyOther (line.splitOnP (Symbol.isChar '\''))).flatMap (List.splitOnP Symbol.breaksWord)

/-- The names in a line, where `named` says which values are names. -/
def lineNames (named : α → Bool) (line : List (Symbol α)) : List (List (Symbol α)) :=
  if isComment line then []
  else if refersToFile line then (line.filter (Symbol.isNamed named)).map fun x => [x]
  else (words line).filter (List.any · (Symbol.isNamed named))

/-- Whether an expression stands for a name; the others stand for a type, a day, or a part of a
statement. -/
def Expr.isName : Expr → Bool
  | var name => ! ["state", "date", "members", "admin_check"].contains name
  | literal _ => false
  | member _ field => field == "name"
  | filter _ _ => true
  | choose _ _ _ => false

def names (xs : List (Symbol Mark)) : List (List (Symbol Mark)) :=
  (lines xs).flatMap (lineNames fun m => m.1.isName)

def Script.names? (t : Script) : Option (List Line) := t.read? (lineNames Expr.isName)

/-! ### Names of a template -/

variable {f : α → β}

theorem startsWith_map (cs : List Char) (line : List (Symbol α)) :
    startsWith cs (line.map (Symbol.map f)) = startsWith cs line := by
  induction cs generalizing line with
  | nil => rfl
  | cons c cs ih =>
    cases line with
    | nil => rfl
    | cons x line =>
      cases x with
      | char d => exact congrArg (d == c && ·) (ih line)
      | value a => rfl

theorem isComment_map (line : List (Symbol α)) :
    isComment (line.map (Symbol.map f)) = isComment line := by
  have hblank : Symbol.isChar ' ' ∘ Symbol.map f = Symbol.isChar ' ' :=
    funext (Symbol.isChar_map f ' ')
  simp only [isComment, List.dropWhile_map, hblank, startsWith_map]

theorem splitOnP_map {γ δ : Type} (p : δ → Bool) (g : γ → δ) (xs : List γ) :
    (xs.map g).splitOnP p = (xs.splitOnP (p ∘ g)).map (List.map g) := by
  induction xs with
  | nil => rfl
  | cons x xs ih =>
    rw [List.map_cons, List.splitOnP_cons_eq_if_modifyHead, List.splitOnP_cons_eq_if_modifyHead, ih]
    by_cases hp : p (g x) = true
    · simp [hp]
    · cases xs.splitOnP (p ∘ g) <;> simp [hp]

theorem everyOther_map {γ δ : Type} (g : γ → δ) (xs : List γ) :
    everyOther (xs.map g) = (everyOther xs).map g := by
  induction xs using everyOther.induct with
  | case1 => rfl
  | case2 a => rfl
  | case3 a b xs ih => exact congrArg (g a :: ·) ih

theorem words_map (line : List (Symbol α)) :
    words (line.map (Symbol.map f)) = (words line).map (List.map (Symbol.map f)) := by
  have hquote : Symbol.isChar '\'' ∘ Symbol.map f = Symbol.isChar '\'' :=
    funext (Symbol.isChar_map f '\'')
  have hbreak : Symbol.breaksWord ∘ Symbol.map f = Symbol.breaksWord :=
    funext fun x => by cases x <;> rfl
  rw [words, splitOnP_map, hquote, everyOther_map, List.flatMap_map, words, List.map_flatMap]
  simp only [splitOnP_map, hbreak]

/-- The names in a line do not depend on what its values are. -/
theorem lineNames_map (named : β → Bool) (line : List (Symbol α)) :
    lineNames named (line.map (Symbol.map f)) =
      (lineNames (named ∘ f) line).map (List.map (Symbol.map f)) := by
  have hnamed : Symbol.isNamed named ∘ Symbol.map f = Symbol.isNamed (named ∘ f) :=
    funext fun x => by cases x <;> rfl
  have hrefers : refersToFile (line.map (Symbol.map f)) = refersToFile line := by
    simp only [refersToFile, startsWith_map]
  have hany : (fun w : List (Symbol β) => w.any (Symbol.isNamed named)) ∘ List.map (Symbol.map f) =
      fun w => w.any (Symbol.isNamed (named ∘ f)) := by
    funext w
    rw [Function.comp_apply, List.any_map, hnamed]
  unfold lineNames
  rw [isComment_map, hrefers]
  split
  · rfl
  · split
    · rw [List.filter_map, hnamed, List.map_map, List.map_map]
      rfl
    · rw [words_map, List.filter_map, hany]

variable {key : String} {scope : Scope} {found : List Line} {xs : List (Symbol Mark)}

/-- The names in a text are the names of its template, filled in. -/
theorem mem_names_marked {t : Template} {w : List (Symbol Mark)}
    (hn : t.script.names? = some found) (hx : t.marked key scope = .ok xs) :
    w ∈ names xs ↔ ∃ m ∈ found, w ∈ m.filled key scope :=
  mem_read (fun _ _ => lineNames_map _ _) (by decide) hn hx

theorem forall_names {t : Template} {P : List (Symbol Mark) → Prop}
    (hn : t.script.names? = some found) (hx : t.marked key scope = .ok xs) :
    (∀ w ∈ names xs, P w) ↔
      ∀ m ∈ found, ∀ s ∈ reached key m.guards scope, P (fill key s m.symbols) := by
  simp only [mem_names_marked hn hx, Line.filled, List.mem_map]
  constructor
  · intro h m hm s hs
    exact h _ ⟨m, hm, s, hs, rfl⟩
  · rintro h w ⟨m, hm, s, hs, rfl⟩
    exact h m hm s hs

/-! ### Names that are identifiers -/

open Name (isIdentifier)

variable {s : Scope}

def NamesFit (xs : List (Symbol Mark)) : Prop := ∀ w ∈ names xs, isIdentifier (spelled w) = true

def spelling (key : String) (scope : Scope) (w : List (Symbol Expr)) : List Char :=
  spelled (fill key scope w)

@[simp] theorem spelling_nil : spelling key scope [] = [] := rfl

@[simp] theorem spelling_char (c : Char) (w : List (Symbol Expr)) :
    spelling key scope (.char c :: w) = c :: spelling key scope w := rfl

@[simp] theorem spelling_value (e : Expr) (w : List (Symbol Expr)) :
    spelling key scope (.value e :: w) = (e.mark key scope).2.toList ++ spelling key scope w := rfl

@[simp] theorem spelling_append (v w : List (Symbol Expr)) :
    spelling key scope (v ++ w) = spelling key scope v ++ spelling key scope w := by
  simp [spelling, fill_append, spelled]

@[simp] theorem spelling_ofText (t : String) : spelling key scope (ofText t) = t.toList := by
  rw [spelling, fill_ofText, ← String.toList_ofList (l := spelled _), ← plain, plain_ofText]

/-- Whether a word of a template is an identifier wherever it is written. -/
def Line.Fits (key : String) (scope : Scope) (m : Line) : Prop :=
  ∀ s ∈ reached key m.guards scope, isIdentifier (spelling key s m.symbols) = true

theorem namesFit_iff {t : Template} (hn : t.script.names? = some found)
    (hx : t.marked key scope = .ok xs) : NamesFit xs ↔ ∀ m ∈ found, m.Fits key scope :=
  forall_names hn hx

theorem eq_of_mem_reached_branch {c : Expr} {b : Bool}
    (h : s ∈ (Guard.branch c b).reached key scope) : s = scope := by
  rw [Guard.reached] at h
  split at h
  · split at h <;> simp_all
  · cases h

theorem mem_reached_of_branch {guards : List Guard} {c : Expr} {b : Bool}
    (h : s ∈ reached key (.branch c b :: guards) scope) : s ∈ reached key guards scope := by
  obtain ⟨s', hbranch, hrest⟩ := List.mem_flatMap.mp h
  obtain rfl := eq_of_mem_reached_branch hbranch
  exact hrest

theorem Line.Fits.branch {guards : List Guard} {w : List (Symbol Expr)}
    (h : (Line.mk guards w).Fits key scope) (c : Expr) (b : Bool) :
    (Line.mk (.branch c b :: guards) w).Fits key scope :=
  fun s hs => h s (mem_reached_of_branch hs)

theorem reached_append_singleton (gs : List Guard) (g : Guard) (scope : Scope) :
    reached key (gs ++ [g]) scope = (reached key gs scope).flatMap (Guard.reached key · g) := by
  induction gs generalizing scope with
  | nil => simp [reached]
  | cons h gs ih =>
    simp only [List.cons_append, reached, List.flatMap_assoc]
    exact congrArg (List.flatMap · _) (funext ih)

section Reached

variable {guards : List Guard} {w : List (Symbol Expr)} (hs : reached key guards scope = [s])
include hs

theorem Line.fits_iff :
    (Line.mk guards w).Fits key scope ↔ isIdentifier (spelling key s w) = true := by
  simp [Line.Fits, hs]

theorem namesFit_under {t : Template} {ws : List (List (Symbol Expr))}
    (hn : t.script.names? = some (ws.map (Line.mk guards))) (hx : t.marked key scope = .ok xs) :
    NamesFit xs ↔ ∀ w ∈ ws, isIdentifier (spelling key s w) = true := by
  simp only [namesFit_iff hn hx, List.forall_mem_map, Line.fits_iff hs]

theorem reached_snoc (g : Guard) : reached key (guards ++ [g]) scope = g.reached key s := by
  rw [reached_append_singleton, hs, List.flatMap_singleton]

theorem reached_each {α : Type} {n : String} {items : Expr} {as : List α} {f : α → Value}
    (hv : items.eval key s = .ok (.list (as.map f))) :
    reached key (guards ++ [.each n items]) scope = as.map fun a => (n, f a) :: s := by
  have hitems : items.eval key s >>= Value.items = .ok (as.map f) := bind_eq_ok.mpr ⟨_, hv, rfl⟩
  rw [reached_snoc hs, Guard.reached, hitems]
  exact List.map_map

theorem Line.fits_each_iff {α : Type} {n : String} {items : Expr} {as : List α} {f : α → Value}
    (hv : items.eval key s = .ok (.list (as.map f))) :
    (Line.mk (guards ++ [.each n items]) w).Fits key scope ↔
      ∀ a ∈ as, isIdentifier (spelling key ((n, f a) :: s) w) = true := by
  rw [Line.Fits, reached_each hs hv, List.forall_mem_map]

end Reached

end Scaffold.Template
