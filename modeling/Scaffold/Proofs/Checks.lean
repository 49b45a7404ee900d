import Scaffold.Choice
import Scaffold.Name.Grammar
import Scaffold.Proofs.Fallible

/-! # Steps that are decided by checks

A step is decided by a list of checks when it ends as they do when they are made in order: with a
result if all of them pass, and otherwise with the failure of the first that does not.
-/

namespace Scaffold

section Decides

variable {ε α β : Type} {x : Except ε α} {y : Except ε β} {c : Except ε Unit}
  {checks later : List (Except ε Unit)} {e : ε}

def ending (x : Except ε α) : Except ε Unit := (fun _ => ()) <$> x

theorem ending_eq_ok : ending x = .ok () ↔ ∃ a, x = .ok a := by
  rw [ending, map_eq_ok]
  simp

theorem ending_eq_error : ending x = .error e ↔ x = .error e := map_eq_error

/-- Whether a step ends as checks do that are made in order. -/
def Decides (checks : List (Except ε Unit)) (x : Except ε α) : Prop :=
  ending x = checks.forM id

theorem decides_nil : Decides [] x ↔ ∃ a, x = .ok a := ending_eq_ok

theorem Decides.bind {f : α → Except ε β} (hx : Decides checks x)
    (hf : ∀ a, x = .ok a → Decides later (f a)) : Decides (checks ++ later) (x >>= f) := by
  have happend : (checks ++ later).forM id = checks.forM id >>= fun _ => later.forM id :=
    List.forM_append
  unfold Decides at *
  rw [happend, ← hx]
  cases x with
  | error e => rfl
  | ok a => exact hf a rfl

theorem Decides.cons {f : α → Except ε β} (hx : Decides [c] x)
    (hf : ∀ a, x = .ok a → Decides later (f a)) : Decides (c :: later) (x >>= f) := hx.bind hf

theorem Decides.finish {f : α → Except ε β} (hx : Decides checks x)
    (hf : ∀ a, x = .ok a → ∃ b, f a = .ok b) : Decides checks (x >>= f) := by
  have := hx.bind fun a ha => decides_nil.mpr (hf a ha)
  rwa [List.append_nil] at this

theorem Decides.skip (hc : c = .ok ()) (hx : Decides checks x) : Decides (c :: checks) x := by
  subst hc
  exact hx

theorem decides_ending (x : Except ε α) : Decides [ending x] x := by
  cases x <;> rfl

theorem decides_check (c : Except ε Unit) : Decides [c] c := by
  cases c <;> rfl

theorem Decides.exists_ok_iff (h : Decides checks x) :
    (∃ a, x = .ok a) ↔ ∀ c ∈ checks, c = .ok () := by
  rw [← ending_eq_ok, h, forM_eq_ok]
  rfl

theorem Decides.eq_error_iff (h : Decides checks x) :
    x = .error e ↔ FailsFirst id checks e := by
  rw [← ending_eq_error, h, forM_eq_error]

theorem FailsFirst.mem (h : FailsFirst id checks e) : .error e ∈ checks := by
  obtain ⟨pre, c, post, rfl, -, hc⟩ := h
  rw [← hc]
  exact List.mem_append_cons_self

theorem FailsOnly.ending {P : ε → Prop} (h : FailsOnly P x) : FailsOnly P (ending x) := h.map

end Decides

/-! ### Complaints about an input -/

/-- Complaints about what was asked, and not about a template or the settings of a project. -/
inductive Failure.OfInput : Failure → Prop
  | illFormed (value role : String) (rule : NameRule) :
      OfInput (Complaint.illFormed value role rule)
  | unknownChoice (what plural value : String) (valid : List String) :
      OfInput (Complaint.unknownChoice what plural value valid)
  | missing (what : Missing) : OfInput (Complaint.missing what)
  | columnShape (definition : String) : OfInput (Complaint.columnShape definition)
  | columnBlank (definition : String) : OfInput (Complaint.columnBlank definition)
  | columnModifier (modifier definition : String) :
      OfInput (Complaint.columnModifier modifier definition)

open Failure (OfInput)

variable {p : Prop} [Decidable p] {c : Complaint}

def require (p : Prop) [Decidable p] (c : Complaint) : Except Failure Unit :=
  if p then .ok () else .error c

theorem require_eq_ok : require p c = .ok () ↔ p := by
  rw [require]
  split <;> simp_all

theorem ofInput_require (h : OfInput c) : FailsOnly OfInput (require p c) := by
  rw [require]
  split
  · exact failsOnly_ok _
  · exact failsOnly_error h

def requireWord (what plural : String) (words : List String) (value : String) :
    Except Failure Unit :=
  require (value ∈ words) (.unknownChoice what plural value words)

theorem ofInput_requireWord (what plural : String) (words : List String) (value : String) :
    FailsOnly OfInput (requireWord what plural words value) :=
  ofInput_require (.unknownChoice _ _ _ _)

theorem decides_choose {α : Type} {what plural value : String} {word : α → String} {all : List α}
    {words : List String} (hw : all.map word = words) :
    Decides [requireWord what plural words value] (choose what plural word all value) := by
  subst hw
  unfold choose requireWord require
  cases h : all.find? fun a => word a = value with
  | some a =>
    have hm : value ∈ all.map word :=
      List.mem_map.mpr ⟨a, List.mem_of_find?_eq_some h, by simpa using List.find?_some h⟩
    rw [if_pos hm]
    rfl
  | none =>
    have hm : value ∉ all.map word := by
      intro hv
      obtain ⟨a, ha, he⟩ := List.mem_map.mp hv
      exact List.find?_eq_none.mp h a ha (decide_eq_true he)
    rw [if_neg hm]
    rfl

namespace Name

theorem ofInput_checkIdentifier (value role : String) :
    FailsOnly OfInput (checkIdentifier value role) := by
  rw [checkIdentifier]
  split
  · exact failsOnly_ok _
  · exact failsOnly_error (.illFormed _ _ _)

theorem ofInput_checkTypeName (value role : String) :
    FailsOnly OfInput (checkTypeName value role) := by
  rw [checkTypeName]
  split
  · exact failsOnly_ok _
  · exact failsOnly_error (.illFormed _ _ _)

end Name

end Scaffold
