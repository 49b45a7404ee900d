import Scaffold.Proofs.Name.Spelling

/-! # Texts in another case

Changing the case of ASCII letters changes neither what a text is lowered to nor where it is blank:
the letters count as letters with a case in both forms.
-/

namespace Scaffold.Text

variable {c : Char} {cs ds : List Char}

/-- Two texts that are the same but for the case of ASCII letters. -/
def Recased (cs ds : List Char) : Prop := cs.map Char.toLower = ds.map Char.toLower

@[mk_iff]
structure Caseless (c : Char) : Prop where
  small : lowerChar c.toLower = lowerChar c
  cased : cased.has c.toLower = cased.has c
  ignorable : caseIgnorable.has c.toLower = caseIgnorable.has c
  blank : isBlank c.toLower = isBlank c
  sigma : c.toLower = 'Σ' ↔ c = 'Σ'

instance (c : Char) : Decidable (Caseless c) := decidable_of_iff _ (caseless_iff c).symm

theorem caseless (c : Char) : Caseless c := by
  by_cases hc : 0x41 ≤ c.toNat ∧ c.toNat < 0x41 + 26
  · have hall : ∀ i : Fin 26, Caseless (Char.ofNat (0x41 + i)) := by decide +kernel
    obtain ⟨i, rfl⟩ := exists_eq_ofNat hc.1 hc.2
    exact hall i
  · have hsame : c.toLower = c := by
      refine dif_neg ?_
      rintro ⟨hl, hu⟩
      exact hc ⟨UInt32.le_iff_toNat_le.mp hl, Nat.lt_succ_of_le (UInt32.le_iff_toNat_le.mp hu)⟩
    rw [caseless_iff, hsame]
    exact ⟨rfl, rfl, rfl, rfl, Iff.rfl⟩

theorem casedAfter_toLower (before : Bool) (c : Char) :
    casedAfter before c.toLower = casedAfter before c := by
  rw [casedAfter, casedAfter, (caseless c).ignorable, (caseless c).cased]

theorem casedAhead_map_toLower (cs : List Char) :
    casedAhead (cs.map Char.toLower) = casedAhead cs := by
  induction cs with
  | nil => rfl
  | cons c cs ih =>
    rw [List.map_cons, casedAhead, (caseless c).ignorable, (caseless c).cased, ih, casedAhead]

theorem lowerFrom_map_toLower (before : Bool) (cs : List Char) :
    lowerFrom before (cs.map Char.toLower) = lowerFrom before cs := by
  induction cs generalizing before with
  | nil => rfl
  | cons c cs ih =>
    rw [List.map_cons, lowerFrom, casedAfter_toLower, ih, casedAhead_map_toLower, lowerFrom]
    simp only [(caseless c).sigma, (caseless c).small]

theorem Recased.lower_eq (h : Recased cs ds) : lower cs = lower ds := by
  rw [lower, ← lowerFrom_map_toLower, h, lowerFrom_map_toLower, lower]

/-- A blank is no letter, so nothing else is lowered to it. -/
theorem isBlank_eq_false_of_lowerChar {d : Char} (h : lowerChar c = [d]) (hd : isBlank d = false) :
    isBlank c = false := by
  have hruns : ∀ r ∈ lowerRuns, ∀ b ∈ blanks, r.last < b.1 ∨ b.2 < r.first := by decide +kernel
  rcases lowerChar_cases c with hc | rfl | ⟨r, hr, hn, -⟩
  · rw [hc] at h
    obtain ⟨rfl, -⟩ := List.cons.inj h
    exact hd
  · decide
  · rw [← Bool.not_eq_true, isBlank, CharClass.has_iff]
    rintro ⟨b, hb, hl⟩
    have hclear := hruns r hr b hb
    have hin := CaseRun.contains_iff.mp hn
    omega

theorem trimStart_map_toLower (cs : List Char) :
    trimStart (cs.map Char.toLower) = (trimStart cs).map Char.toLower := by
  have hblank : isBlank ∘ Char.toLower = isBlank := funext fun c => (caseless c).blank
  rw [trimStart, List.dropWhile_map, hblank, trimStart]

theorem trimEnd_map_toLower (cs : List Char) :
    trimEnd (cs.map Char.toLower) = (trimEnd cs).map Char.toLower := by
  induction cs with
  | nil => rfl
  | cons c cs ih =>
    rw [List.map_cons, trimEnd, ih, trimEnd, (caseless c).blank]
    cases trimEnd cs with
    | nil => by_cases hc : isBlank c = true <;> simp [hc]
    | cons d ds => rfl

theorem Recased.trim (h : Recased cs ds) : Recased (trim cs) (trim ds) := by
  rw [Recased, Text.trim, Text.trim, ← trimEnd_map_toLower, ← trimEnd_map_toLower,
    ← trimStart_map_toLower, ← trimStart_map_toLower, h]

theorem Recased.symm (h : Recased cs ds) : Recased ds cs := Eq.symm h

theorem Recased.eq_nil_iff (h : Recased cs ds) : cs = [] ↔ ds = [] := by
  rw [← List.map_eq_nil_iff (f := Char.toLower), h, List.map_eq_nil_iff]

end Scaffold.Text
