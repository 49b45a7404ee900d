import Mathlib.Data.List.Basic
import Scaffold.Files.Path
import Scaffold.Proofs.Text.Split

/-! # The text of a path

The path that is read from a text is read again from its own text: what a path leaves out of the
text that it was read from makes no difference.
-/

namespace Scaffold.Path

open Text

variable {p : Path} {cs : List Char} {ss : List String}

/-- Parts that lead somewhere and hold no slash. -/
def Proper (ss : List String) : Prop := ∀ s ∈ ss, isPart s.toList = true ∧ '/' ∉ s.toList

theorem proper_ofChars (cs : List Char) : Proper (ofChars cs).parts := by
  intro s hs
  obtain ⟨part, hp, rfl⟩ := List.mem_map.mp hs
  obtain ⟨hm, hp⟩ := List.mem_filter.mp hp
  rw [String.toList_ofList]
  exact ⟨hp, not_mem_of_mem_split hm⟩

theorem parts_join (h : Proper ss) :
    ((split '/' (Text.join ['/'] (ss.map String.toList))).filter isPart).map String.ofList =
      ss := by
  rcases eq_or_ne ss [] with rfl | hn
  · rfl
  have hslash : ∀ part ∈ ss.map String.toList, '/' ∉ part := by
    rintro part hp
    obtain ⟨s, hs, rfl⟩ := List.mem_map.mp hp
    exact (h s hs).2
  have hpart : ∀ part ∈ ss.map String.toList, isPart part = true := by
    rintro part hp
    obtain ⟨s, hs, rfl⟩ := List.mem_map.mp hp
    exact (h s hs).1
  rw [split_join (by simpa using hn) hslash, List.filter_eq_self.mpr hpart, List.map_map]
  simp [Function.comp_def]

theorem head?_join (h : Proper ss) : (Text.join ['/'] (ss.map String.toList)).head? ≠ some '/' := by
  cases ss with
  | nil => simp [Text.join]
  | cons s ss =>
    obtain ⟨hs, hslash⟩ := h s List.mem_cons_self
    cases hc : s.toList with
    | nil => simp [isPart, hc] at hs
    | cons c cs =>
      rw [hc] at hslash
      have hne : c ≠ '/' := fun he => hslash (he ▸ List.mem_cons_self)
      cases ss with
      | nil => simpa [Text.join, hc] using hne
      | cons t ss => simpa [Text.join, hc] using hne

theorem anchor_of_head? (h : cs.head? ≠ some '/') :
    (ofChars cs).anchor = .relative ∧ (ofChars ('/' :: cs)).anchor = .root ∧
      (ofChars ('/' :: '/' :: cs)).anchor = .doubleRoot := by
  cases cs with
  | nil => exact ⟨rfl, rfl, rfl⟩
  | cons c cs =>
    have hc : c ≠ '/' := by simpa using h
    simp [ofChars, hc]

theorem anchor_eq_relative : (ofChars cs).anchor = .relative ↔ cs.head? ≠ some '/' := by
  constructor
  · intro h
    unfold ofChars at h
    split at h
    · cases h
    · cases h
    · cases h
    · rename_i hne
      intro hslash
      obtain ⟨cs, rfl⟩ := List.head?_eq_some_iff.mp hslash
      exact hne cs rfl
  · intro h
    exact (anchor_of_head? h).1

theorem parts_slash (cs : List Char) : (ofChars ('/' :: cs)).parts = (ofChars cs).parts := by
  simp [ofChars, split, isPart]

/-- A path is read from its own text. -/
theorem ofString_text (h : Proper p.parts) : ofString p.text = p := by
  obtain ⟨anchor, parts⟩ := p
  obtain ⟨hrelative, hroot, hdouble⟩ := anchor_of_head? (head?_join h)
  have hparts : (ofChars (Text.join ['/'] (parts.map String.toList))).parts = parts := parts_join h
  cases anchor with
  | relative =>
    rcases eq_or_ne parts [] with rfl | hn
    · rfl
    · have ht : (text ⟨.relative, parts⟩).toList = Text.join ['/'] (parts.map String.toList) := by
        rw [text, if_neg (by simpa using hn), toList_intercalate]
        rfl
      rw [ofString, ht, Path.mk.injEq]
      exact ⟨hrelative, hparts⟩
  | root =>
    have ht : (text ⟨.root, parts⟩).toList = '/' :: Text.join ['/'] (parts.map String.toList) := by
      rw [text, String.toList_append, toList_intercalate]
      rfl
    rw [ofString, ht, Path.mk.injEq, parts_slash]
    exact ⟨hroot, hparts⟩
  | doubleRoot =>
    have ht : (text ⟨.doubleRoot, parts⟩).toList =
        '/' :: '/' :: Text.join ['/'] (parts.map String.toList) := by
      rw [text, String.toList_append, toList_intercalate]
      rfl
    rw [ofString, ht, Path.mk.injEq, parts_slash, parts_slash]
    exact ⟨hdouble, hparts⟩

theorem ofString_text_ofString (s : String) : ofString (ofString s).text = ofString s :=
  ofString_text (proper_ofChars s.toList)

theorem div_eq {s : String} (hp : isPart s.toList = true) (hs : '/' ∉ s.toList) :
    p / s = ⟨p.anchor, p.parts ++ [s]⟩ := by
  have hproper : Proper [s] := List.forall_mem_singleton.mpr ⟨hp, hs⟩
  have hread : ofString s = ⟨.relative, [s]⟩ := ofString_text (p := ⟨.relative, [s]⟩) hproper
  change p.join (ofString s) = _
  rw [hread]
  rfl

end Scaffold.Path
