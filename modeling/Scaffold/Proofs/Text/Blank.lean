import Mathlib.Data.List.TakeWhile
import Scaffold.Proofs.Text.Split
import Scaffold.Text.Blank

/-! # Trimmed texts

A text is trimmed when neither end is blank. Trimming yields such a text and leaves it alone.
-/

namespace Scaffold.Text

variable {c : Char} {cs : List Char}

def Trimmed (cs : List Char) : Prop :=
  (∀ c ∈ cs.head?, isBlank c = false) ∧ ∀ c ∈ cs.getLast?, isBlank c = false

instance (cs : List Char) : Decidable (Trimmed cs) :=
  decidable_of_iff (cs.head?.all (!isBlank ·) = true ∧ cs.getLast?.all (!isBlank ·) = true)
    (by simp [Trimmed, Option.all_eq_true])

theorem trimStart_isSuffix (cs : List Char) : trimStart cs <:+ cs := List.dropWhile_suffix _

theorem trimEnd_isPrefix (cs : List Char) : trimEnd cs <+: cs := by
  induction cs with
  | nil => exact List.prefix_rfl
  | cons c cs ih =>
    rw [trimEnd]
    cases h : trimEnd cs with
    | nil =>
      by_cases hc : isBlank c = true
      · simp [hc]
      · simp [hc, List.cons_prefix_cons]
    | cons d ds =>
      rw [h] at ih
      simpa [List.cons_prefix_cons] using ih

theorem mem_of_mem_trim (h : c ∈ trim cs) : c ∈ cs :=
  (trimStart_isSuffix cs).subset ((trimEnd_isPrefix _).subset h)

theorem trimEnd_getLast? (cs : List Char) : ∀ c ∈ (trimEnd cs).getLast?, isBlank c = false := by
  induction cs with
  | nil => simp [trimEnd]
  | cons c cs ih =>
    rw [trimEnd]
    cases h : trimEnd cs with
    | nil =>
      by_cases hc : isBlank c = true
      · simp [hc]
      · simp [hc]
    | cons d ds =>
      rw [h] at ih
      simpa using ih

theorem trimStart_head? (cs : List Char) : ∀ c ∈ (trimStart cs).head?, isBlank c = false := by
  induction cs with
  | nil => simp [trimStart]
  | cons c cs ih =>
    by_cases hc : isBlank c = true
    · simpa [trimStart, hc] using ih
    · simp [trimStart, hc]

theorem trimEnd_head? (h : ∀ c ∈ cs.head?, isBlank c = false) :
    ∀ c ∈ (trimEnd cs).head?, isBlank c = false := by
  obtain ⟨t, ht⟩ := trimEnd_isPrefix cs
  intro c hc
  cases hd : trimEnd cs with
  | nil => simp [hd] at hc
  | cons d ds =>
    refine h c ?_
    rw [← ht, hd]
    simpa [hd] using hc

theorem trimmed_trim (cs : List Char) : Trimmed (trim cs) :=
  ⟨trimEnd_head? (trimStart_head? cs), trimEnd_getLast? _⟩

theorem trimEnd_append (cs : List Char) :
    ∃ tail, cs = trimEnd cs ++ tail ∧ ∀ c ∈ tail, isBlank c = true := by
  induction cs with
  | nil => exact ⟨[], rfl, by simp⟩
  | cons c cs ih =>
    obtain ⟨tail, he, ht⟩ := ih
    rw [trimEnd]
    cases h : trimEnd cs with
    | nil =>
      rw [h, List.nil_append] at he
      subst he
      by_cases hc : isBlank c = true
      · exact ⟨c :: cs, by simp [hc], by simpa [hc] using ht⟩
      · exact ⟨cs, by simp [hc], ht⟩
    | cons d ds =>
      rw [h] at he
      exact ⟨tail, congrArg (c :: ·) he, ht⟩

theorem trim_append (cs : List Char) :
    ∃ lead tail, cs = lead ++ trim cs ++ tail ∧ (∀ c ∈ lead, isBlank c = true) ∧
      ∀ c ∈ tail, isBlank c = true := by
  obtain ⟨tail, he, ht⟩ := trimEnd_append (trimStart cs)
  refine ⟨cs.takeWhile isBlank, tail, ?_,
    fun c hc => List.all_eq_true.mp List.all_takeWhile c hc, ht⟩
  rw [trim, List.append_assoc, ← he]
  exact (List.takeWhile_append_dropWhile).symm

theorem trimEnd_of_getLast? (h : ∀ c ∈ cs.getLast?, isBlank c = false) : trimEnd cs = cs := by
  induction cs with
  | nil => rfl
  | cons c cs ih =>
    rw [trimEnd]
    cases cs with
    | nil =>
      have hc : isBlank c = false := h c (by simp)
      simp [trimEnd, hc]
    | cons d ds => rw [ih (by simpa using h)]

theorem trim_of_trimmed (h : Trimmed cs) : trim cs = cs := by
  have hs : trimStart cs = cs := by
    cases cs with
    | nil => rfl
    | cons c cs => simp [trimStart, h.1 c (by simp)]
  rw [trim, hs, trimEnd_of_getLast? h.2]

theorem trimEnd_of_blank (h : ∀ c ∈ cs, isBlank c = true) : trimEnd cs = [] := by
  induction cs with
  | nil => rfl
  | cons c cs ih =>
    obtain ⟨hc, hcs⟩ := List.forall_mem_cons.mp h
    rw [trimEnd, ih hcs]
    simp [hc]

theorem trimEnd_append_blank {tail : List Char} (cs : List Char)
    (h : ∀ c ∈ tail, isBlank c = true) : trimEnd (cs ++ tail) = trimEnd cs := by
  induction cs with
  | nil => exact trimEnd_of_blank h
  | cons c cs ih => rw [List.cons_append, trimEnd, ih, trimEnd]

theorem trim_of_blank (h : ∀ c ∈ cs, isBlank c = true) : trim cs = [] :=
  trimEnd_of_blank fun c hc => h c ((trimStart_isSuffix cs).subset hc)

theorem trim_blank_append {lead : List Char} (cs : List Char) (h : ∀ c ∈ lead, isBlank c = true) :
    trim (lead ++ cs) = trim cs := by
  rw [trim, trimStart, List.dropWhile_append_of_pos h]
  rfl

theorem trim_append_blank {tail : List Char} (cs : List Char) (h : ∀ c ∈ tail, isBlank c = true) :
    trim (cs ++ tail) = trim cs := by
  by_cases hc : ∀ c ∈ cs, isBlank c = true
  · rw [trim_of_blank hc, trim_of_blank (List.forall_mem_append.mpr ⟨hc, h⟩)]
  · have hdrop : trimStart (cs ++ tail) = trimStart cs ++ tail := by
      rw [trimStart, List.dropWhile_append, if_neg, trimStart]
      rwa [List.isEmpty_iff, List.dropWhile_eq_nil_iff]
    rw [trim, hdrop, trimEnd_append_blank _ h, trim]

theorem map_trim {ps : List (List Char)} (h : ∀ p ∈ ps, Trimmed p) : ps.map trim = ps := by
  rw [List.map_congr_left fun p hp => trim_of_trimmed (h p hp), List.map_id']

theorem Trimmed.append {as bs ms : List Char} (ha : Trimmed as) (hb : Trimmed bs) (hna : as ≠ [])
    (hnb : bs ≠ []) : Trimmed (as ++ ms ++ bs) := by
  constructor
  · rw [List.append_assoc, List.head?_append_of_ne_nil _ hna]
    exact ha.1
  · rw [List.getLast?_append_of_ne_nil _ hnb]
    exact hb.2

theorem trimmed_nil : Trimmed [] := by decide

theorem trimmed_join {sep : List Char} {ps : List (List Char)}
    (h : ∀ p ∈ ps, p ≠ [] ∧ Trimmed p) : Trimmed (join sep ps) := by
  induction ps with
  | nil => exact trimmed_nil
  | cons p ps ih =>
    obtain ⟨⟨hn, ht⟩, hs⟩ := List.forall_mem_cons.mp h
    rcases eq_or_ne ps [] with rfl | hps
    · exact ht
    · obtain ⟨q, hq⟩ := List.exists_mem_of_ne_nil ps hps
      rw [join_cons sep p hps]
      exact ht.append (ih hs) hn (join_ne_nil sep hq (hs q hq).1)

end Scaffold.Text
