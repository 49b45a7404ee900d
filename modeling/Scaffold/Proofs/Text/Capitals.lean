import Scaffold.Proofs.Name.Style

/-! # Capitals

The capital form of a character starts with a capital that is its own capital form: no run of the
case table leads back into a run or to a character that becomes several. What a character is
capitalised to is never a blank or a mark of punctuation that was not there before.
-/

namespace Scaffold.Text

variable {c d : Char}

theorem upperRuns_sorted : upperRuns.Pairwise fun a b => a.first ≤ b.first := by
  have : IsTrans CaseRun fun a b => a.first ≤ b.first := ⟨fun _ _ _ => Nat.le_trans⟩
  rw [← List.isChain_iff_pairwise]
  decide +kernel

theorem upperRuns_settled : ∀ r ∈ upperRuns, r.settled upperRuns = true := by
  rw [← List.all_eq_true]
  decide +kernel

def expanded : CharClass := upperExpansions.map fun e => (e.1, e.1)

theorem upperRuns_avoid_expanded : ∀ r ∈ upperRuns, r.avoids expanded = true := by
  rw [← List.all_eq_true]
  decide +kernel

def IsLarge (c : Char) : Prop := upperChar c = [c]

instance (c : Char) : Decidable (IsLarge c) := inferInstanceAs (Decidable (_ = _))

theorem isLarge_image {r : CaseRun} {n : Nat} (hr : r ∈ upperRuns) (h : r.contains n = true) :
    IsLarge (Char.ofNat (r.image n)) := by
  have hs := upperRuns_settled r hr
  have hn := CaseRun.toNat_image h hs
  apply convert_of_forall
  · intro e he hi
    rw [hn] at hi
    have hm : (e.1, e.1) ∈ expanded := List.mem_map_of_mem he
    have ha := CaseRun.avoids_image h (upperRuns_avoid_expanded r hr) _ hm
    exact ha ⟨hi.le, hi.ge⟩
  · rw [hn]
    exact CaseRun.not_contains_image h hs upperRuns_sorted

/-- A capital form starts with a character that is its own capital form. -/
theorem isLarge_of_head? (h : d ∈ (upperChar c).head?) : IsLarge d := by
  rcases convert_cases upperExpansions upperRuns c with hc | ⟨cs, hm, hc⟩ | ⟨r, hr, hn, hc⟩
  · rw [upperChar, hc] at h
    cases h
    exact hc
  · have hall : (upperExpansions.all fun e =>
        (e.2.map Char.ofNat).head?.all fun d => decide (IsLarge d)) = true := by decide +kernel
    simp only [List.all_eq_true, Option.all_eq_true, decide_eq_true_eq] at hall
    rw [upperChar, hc] at h
    exact hall _ hm d h
  · rw [upperChar, hc] at h
    cases h
    exact isLarge_image hr hn

/-- Whether a capital form holds only those characters of a class that were there before. -/
def passed (k : CharClass) : Bool :=
  upperRuns.all (·.avoids k) && upperExpansions.all fun e => e.2.all fun n => !k.has (Char.ofNat n)

theorem eq_of_mem_upperChar {k : CharClass} (hk : passed k = true) (h : d ∈ upperChar c)
    (hd : k.has d = true) : d = c := by
  simp only [passed, Bool.and_eq_true, List.all_eq_true, Bool.not_eq_true'] at hk
  rw [upperChar] at h
  rcases convert_cases upperExpansions upperRuns c with hc | ⟨cs, hm, hc⟩ | ⟨r, hr, hn, hc⟩
  · rw [hc] at h
    exact List.mem_singleton.mp h
  · rw [hc] at h
    obtain ⟨n, hn, rfl⟩ := List.mem_map.mp h
    rw [hk.2 _ hm n hn] at hd
    cases hd
  · rw [hc, List.mem_singleton] at h
    obtain ⟨b, hb, hl⟩ := CharClass.has_iff.mp hd
    rw [h, CaseRun.toNat_image hn (upperRuns_settled r hr)] at hl
    exact absurd hl (CaseRun.avoids_image hn (hk.1 r hr) b hb)

theorem upperChar_ne_nil (c : Char) : upperChar c ≠ [] := by
  rw [upperChar]
  rcases convert_cases upperExpansions upperRuns c with hc | ⟨cs, hm, hc⟩ | ⟨r, -, -, hc⟩
  · simp [hc]
  · have hall : ∀ e ∈ upperExpansions, e.2 ≠ [] := by decide +kernel
    rw [hc]
    exact mt List.map_eq_nil_iff.mp (hall _ hm)
  · simp [hc]

end Scaffold.Text
