import Mathlib.Data.List.Basic
import Scaffold.Name.Grammar

/-! # Checked names

Which characters an identifier, a type and a path hold, and how a check of a name ends.
-/

namespace Scaffold.Name

variable {c : Char} {cs : List Char} {value role : String}

theorem isIdentifier_iff :
    isIdentifier cs = true ↔
      ∃ c t, cs = c :: t ∧ isWordStart c = true ∧ ∀ d ∈ t, isWordChar d = true := matchesB_iff

theorem isWordChar_of_isWordStart (h : isWordStart c = true) : isWordChar c = true := by
  simp [isWordChar, h]

theorem isWordChar_of_mem (h : isIdentifier cs = true) (hc : c ∈ cs) : isWordChar c = true := by
  obtain ⟨d, t, rfl, hd, ht⟩ := isIdentifier_iff.mp h
  rcases List.mem_cons.mp hc with rfl | hc
  · exact isWordChar_of_isWordStart hd
  · exact ht c hc

theorem ne_nil_of_isIdentifier (h : isIdentifier cs = true) : cs ≠ [] := by
  rintro rfl
  cases h

theorem not_mem_of_isIdentifier (h : isIdentifier cs = true) (hc : isWordChar c = false) :
    c ∉ cs := by
  intro hm
  rw [isWordChar_of_mem h hm] at hc
  cases hc

theorem checkIdentifier_eq_ok :
    checkIdentifier value role = .ok () ↔ isIdentifier value.toList = true := by
  rw [checkIdentifier]
  split <;> simp_all

theorem checkIdentifier_eq_error {f : Failure} :
    checkIdentifier value role = .error f ↔
      isIdentifier value.toList = false ∧ f = Complaint.illFormed value role .identifier := by
  rw [checkIdentifier]
  split
  · simp_all
  · rename_i h
    rw [Bool.not_eq_true] at h
    simp [h, eq_comm (b := f)]

theorem isTypeChar_of_mem (h : isTypeName cs = true) (hc : c ∈ cs) : isTypeChar c = true := by
  obtain ⟨d, t, rfl, hd, ht⟩ := matchesB_iff.mp (Bool.and_eq_true_iff.mp h).1
  rcases List.mem_cons.mp hc with rfl | hc
  · simp [isTypeChar, isWordChar_of_isWordStart hd]
  · exact ht c hc

theorem isRouteChar_of_mem (h : isRoutePath cs = true) (hc : c ∈ cs) : isRouteChar c = true := by
  obtain ⟨d, t, rfl, hd, ht⟩ := matchesB_iff.mp h
  rcases List.mem_cons.mp hc with rfl | hc
  · rw [beq_iff_eq.mp hd]
    decide
  · exact ht c hc

theorem checkTypeName_eq_ok :
    checkTypeName value role = .ok () ↔ isTypeName value.toList = true := by
  rw [checkTypeName]
  split <;> simp_all

theorem checkRoutePath_eq_ok :
    checkRoutePath value = .ok () ↔ isRoutePath value.toList = true := by
  rw [checkRoutePath]
  split <;> simp_all

end Scaffold.Name
