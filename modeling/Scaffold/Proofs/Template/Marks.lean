import Mathlib.Data.List.Basic
import Scaffold.Proofs.Fallible
import Scaffold.Template.Render

/-! # Marked texts

A marked text keeps the values that a template writes apart from the characters of the template. Its
lines can be read off the template alone: each line of the text is a line of the template, filled in
with the variables that are in scope there.
-/

namespace Scaffold.Template

/-- A character of a template, or a value that it writes. -/
inductive Symbol (α : Type)
  | char (c : Char)
  | value (a : α)
  deriving DecidableEq, Repr

namespace Symbol

variable {α β : Type}

def map (f : α → β) : Symbol α → Symbol β
  | char c => char c
  | value a => value (f a)

def isChar (c : Char) : Symbol α → Bool
  | char d => d == c
  | value _ => false

def ofText (s : String) : List (Symbol α) := s.toList.map char

theorem isChar_map (f : α → β) (c : Char) (x : Symbol α) : (x.map f).isChar c = x.isChar c := by
  cases x <;> rfl

theorem isChar_iff {c : Char} {x : Symbol α} : x.isChar c = true ↔ x = char c := by
  cases x <;> simp [isChar]

end Symbol

open Scaffold.Template.Symbol (ofText)

/-- A value in a text: the expression that it is the value of, and how it is written. -/
abbrev Mark := Expr × String

def marked (key : String) (scope : Scope) : Template → Except Failure (List (Symbol Mark))
  | done => .ok []
  | text s next => do
    let rest ← next.marked key scope
    return ofText s ++ rest
  | emit e next => do
    let v ← e.eval key scope
    let rest ← next.marked key scope
    return .value (e, v.display) :: rest
  | bind name e next => do
    let v ← e.eval key scope
    next.marked key ((name, v) :: scope)
  | each name items body next => do
    let vs ← (← items.eval key scope).items
    let parts ← vs.mapM fun v => body.marked key ((name, v) :: scope)
    let rest ← next.marked key scope
    return parts.flatten ++ rest
  | choose condition yes no next => do
    let v ← condition.eval key scope
    let part ← if v.isTruthy then yes.marked key scope else no.marked key scope
    let rest ← next.marked key scope
    return part ++ rest

def spelled (xs : List (Symbol Mark)) : List Char :=
  xs.flatMap fun
    | .char c => [c]
    | .value m => m.2.toList

def plain (xs : List (Symbol Mark)) : String := String.ofList (spelled xs)

variable {key : String} {scope : Scope} {xs ys : List (Symbol Mark)}

theorem plain_append : plain (xs ++ ys) = plain xs ++ plain ys := by
  simp [plain, spelled]

theorem plain_ofText (s : String) : plain (ofText s) = s := by
  rw [← String.toList_inj, plain, String.toList_ofList, spelled, ofText, List.flatMap_map]
  exact List.flatMap_singleton' _

theorem plain_flatten (parts : List (List (Symbol Mark))) :
    plain parts.flatten = String.join (parts.map plain) := by
  induction parts with
  | nil => rfl
  | cons x parts ih => rw [List.flatten_cons, plain_append, ih, List.map_cons, String.join_cons]

section

variable {condition : Expr} {yes no next : Template}

theorem render_choose_eq : (choose condition yes no next).render key scope =
    condition.eval key scope >>= fun v => (if v.isTruthy then yes else no).render key scope >>=
      fun part => next.render key scope >>= fun rest => pure (part ++ rest) := by
  refine bind_congr fun v => ?_
  cases v.isTruthy <;> rfl

theorem marked_choose_eq : (choose condition yes no next).marked key scope =
    condition.eval key scope >>= fun v => (if v.isTruthy then yes else no).marked key scope >>=
      fun part => next.marked key scope >>= fun rest => pure (part ++ rest) := by
  refine bind_congr fun v => ?_
  cases v.isTruthy <;> rfl

theorem exists_of_marked_choose (h : (choose condition yes no next).marked key scope = .ok xs) :
    ∃ v part rest, condition.eval key scope = .ok v ∧
      (if v.isTruthy then yes else no).marked key scope = .ok part ∧
      next.marked key scope = .ok rest ∧ xs = part ++ rest := by
  rw [marked_choose_eq] at h
  obtain ⟨v, hv, h⟩ := bind_eq_ok.mp h
  obtain ⟨part, hpart, h⟩ := bind_eq_ok.mp h
  obtain ⟨rest, hrest, h⟩ := bind_eq_ok.mp h
  cases h
  exact ⟨v, part, rest, hv, hpart, hrest, rfl⟩

end

/-- A template writes its marked text without the marks. -/
theorem render_eq_plain (t : Template) : t.render key scope = plain <$> t.marked key scope := by
  induction t generalizing scope with
  | done => rfl
  | text s next ih =>
    rw [render, marked, ih, bind_map_left, map_bind]
    exact bind_congr fun rest => congrArg Except.ok (by rw [plain_append, plain_ofText])
  | emit e next ih =>
    rw [render, marked, ih, map_bind]
    refine bind_congr fun v => ?_
    rw [bind_map_left, map_bind]
    exact bind_congr fun rest => congrArg Except.ok (by simp [plain, spelled])
  | bind name e next ih =>
    rw [render, marked, map_bind]
    exact bind_congr fun v => ih
  | each name items body next ihb ihn =>
    rw [render, marked, ihn, map_bind]
    refine bind_congr fun v => ?_
    rw [map_bind]
    refine bind_congr fun vs => ?_
    have hparts : (vs.mapM fun v => body.render key ((name, v) :: scope)) =
        List.map plain <$> vs.mapM fun v => body.marked key ((name, v) :: scope) := by
      simp only [ihb]
      exact mapM_map_eq plain vs
    rw [hparts, bind_map_left, map_bind]
    refine bind_congr fun parts => ?_
    rw [bind_map_left, map_bind]
    exact bind_congr fun rest => congrArg Except.ok (by rw [plain_append, plain_flatten])
  | choose condition yes no next ihy ihn ih =>
    rw [render_choose_eq, marked_choose_eq, map_bind]
    refine bind_congr fun v => ?_
    have hbranch : (if v.isTruthy then yes else no).render key scope =
        plain <$> (if v.isTruthy then yes else no).marked key scope := by
      split
      · exact ihy
      · exact ihn
    rw [hbranch, ih, bind_map_left, map_bind]
    refine bind_congr fun part => ?_
    rw [bind_map_left, map_bind]
    exact bind_congr fun rest => congrArg Except.ok plain_append.symm

end Scaffold.Template
