import Scaffold.Command.Run
import Scaffold.Proofs.Template.Acceptance

/-! # What commands fail with

A complaint asks for one of three exit codes, and for that of the settings only if it is about them.
Settings are read by no command but the one that writes a migration; whatever else a command does
fails in other ways.
-/

namespace Scaffold

variable {f : Failure} {c : Complaint}

theorem Complaint.exitCode_cases (c : Complaint) :
    c.notice.exitCode = 1 ∨ c.notice.exitCode = 2 ∨
      c.notice.exitCode = 3 ∧ ∃ path trouble, c = .settings path trouble := by
  cases c with
  | settings path trouble => exact Or.inr (Or.inr ⟨rfl, path, trouble, rfl⟩)
  | unknownChoice | missing => exact Or.inr (Or.inl rfl)
  | _ => exact Or.inl rfl

/-- Whether a failure is not about the settings of a project. -/
def Failure.Unsettled (f : Failure) : Prop :=
  ∀ path trouble, f ≠ .complaint (.settings path trouble)

open Failure (Unsettled)

theorem unsettled_fault (f : Fault) : Unsettled f := by
  rintro path trouble ⟨⟩

theorem Failure.OfInput.unsettled (h : f.OfInput) : Unsettled f := by
  rintro path trouble rfl
  cases h

theorem Generation.unsettled_text (g : Generation) : FailsOnly Unsettled g.text :=
  fun f hf => (g.ofInput_text f hf).unsettled

namespace Command

theorem unsettled_refuseBlank {α : Type} {x : Except Failure α} (blank : Bool)
    (roles : List String) (hx : FailsOnly Unsettled x) :
    FailsOnly Unsettled (refuseBlank blank roles x) := by
  rw [refuseBlank.eq_def]
  split
  · split
    · exact failsOnly_error (unsettled_fault _)
    · exact hx
  · exact hx

theorem Generator.unsettled_text (g : Generator) (today : Date) (r : Arguments.Reading) :
    FailsOnly Unsettled (g.text today r) := by
  cases g with
  | provider =>
    exact unsettled_refuseBlank _ _ (Generation.filled (.provider _ _ _)).unsettled_text
  | drift => exact unsettled_refuseBlank _ _ (Generation.filled (.storage _ _ _ _)).unsettled_text
  | route => exact (Generation.filled (.route _ _ _)).unsettled_text
  | sync => exact unsettled_refuseBlank _ _ (Generation.filled (.sync _ _ _)).unsettled_text
  | model => exact (Generation.filled (.model _ _)).unsettled_text
  | repository => exact (Generation.filled (.repository _ _)).unsettled_text

theorem unsettled_policiesPlan (r : Arguments.Reading) :
    FailsOnly Unsettled (policiesPlan r) :=
  (Generation.filled (.policies _ _ _)).unsettled_text.bind fun _ _ => failsOnly_ok _

/-- Settings are read only for a migration that is to be written. -/
theorem unsettled_createTablePlan {now : Moment} {d : Disk} {r : Arguments.Reading}
    (h : r.isSet "--write" = false) : FailsOnly Unsettled (createTablePlan now d r) := by
  refine (Generation.migration _ _).unsettled_text.bind fun text _ => ?_
  rw [h]
  exact failsOnly_ok _

end Command

end Scaffold
