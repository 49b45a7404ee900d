import Scaffold.Model
import Scaffold.Proofs.Text.Split

/-! # Parts of a field line

A field line is cut at the commas that stand outside of angle brackets. The count of open brackets
runs on over the whole line and may fall below zero, but a part always starts where it is zero or
less, so a comma that was kept in a part stands inside brackets of that part.
-/

namespace Scaffold.Field

variable {depth : Int} {c : Char} {cs p q : List Char} {ps : List (List Char)}

/-- How many more brackets open in a text than close. -/
def balance (cs : List Char) : Int := cs.count '<' - cs.count '>'

@[simp] theorem balance_nil : balance [] = 0 := rfl

@[simp] theorem balance_append : balance (p ++ q) = balance p + balance q := by
  simp only [balance, List.count_append]
  omega

theorem balance_cons (c : Char) (cs : List Char) :
    balance (c :: cs) = balance [c] + balance cs :=
  balance_append (p := [c])

theorem balance_eq_zero (h : ∀ c ∈ cs, c ≠ '<' ∧ c ≠ '>') : balance cs = 0 := by
  have ho : '<' ∉ cs := fun hm => (h _ hm).1 rfl
  have hc : '>' ∉ cs := fun hm => (h _ hm).2 rfl
  simp [balance, List.count_eq_zero_of_not_mem ho, List.count_eq_zero_of_not_mem hc]

/-- Whether each comma of a text stands inside brackets, where `depth` are open before the text. -/
def Enclosed (depth : Int) (cs : List Char) : Prop :=
  ∀ pre post, cs = pre ++ ',' :: post → 0 < depth + balance pre

theorem enclosed_of_not_mem (h : ',' ∉ cs) : Enclosed depth cs := by
  rintro pre post rfl
  simp at h

theorem enclosed_cons :
    Enclosed depth (c :: cs) ↔ (c = ',' → 0 < depth) ∧ Enclosed (depth + balance [c]) cs := by
  constructor
  · intro h
    refine ⟨fun hc => ?_, fun pre post he => ?_⟩
    · simpa using h [] cs (by rw [hc]; rfl)
    · have := h (c :: pre) post (by rw [he]; rfl)
      rw [balance_cons] at this
      omega
  · rintro ⟨hc, h⟩ (_ | ⟨d, pre⟩) post he
    · obtain ⟨rfl, -⟩ := List.cons.inj he
      simpa using hc rfl
    · obtain ⟨rfl, ht⟩ := List.cons.inj he
      have := h pre post ht
      rw [balance_cons]
      omega

theorem enclosed_append :
    Enclosed depth (p ++ q) ↔ Enclosed depth p ∧ Enclosed (depth + balance p) q := by
  induction p generalizing depth with
  | nil => simp [enclosed_of_not_mem]
  | cons c p ih =>
    rw [List.cons_append, enclosed_cons, ih, enclosed_cons, balance_cons c p, and_assoc,
      Int.add_assoc]

theorem Enclosed.mono {depth' : Int} (h : Enclosed depth cs) (hd : depth ≤ depth') :
    Enclosed depth' cs := by
  intro pre post he
  have := h pre post he
  omega

theorem segmentsFrom_ne_nil (depth : Int) (cs : List Char) : segmentsFrom depth cs ≠ [] := by
  cases cs with
  | nil => simp [segmentsFrom]
  | cons c cs =>
    rw [segmentsFrom]
    generalize (if c = '<' then depth + 1 else if c = '>' then depth - 1 else depth) = d
    split
    · simp
    · split <;> simp

theorem segmentsFrom_cut (h : depth ≤ 0) :
    segmentsFrom depth (',' :: cs) = [] :: segmentsFrom depth cs := by
  simp [segmentsFrom, h]

theorem segmentsFrom_keep (cs : List Char) (h : c = ',' → 0 < depth) :
    ∃ s ss, segmentsFrom (depth + balance [c]) cs = s :: ss ∧
      segmentsFrom depth (c :: cs) = (c :: s) :: ss := by
  have hd : (if c = '<' then depth + 1 else if c = '>' then depth - 1 else depth) =
      depth + balance [c] := by
    by_cases ho : c = '<'
    · simp [ho, balance]
    · by_cases hc : c = '>'
      · simp [hc, balance, Int.sub_eq_add_neg]
      · simp [ho, hc, balance]
  have hk : ¬(c = ',' ∧ depth + balance [c] ≤ 0) := by
    rintro ⟨rfl, hle⟩
    have := h rfl
    simp [balance] at hle
    omega
  rw [segmentsFrom, hd, if_neg hk]
  obtain ⟨s, ss, hs⟩ := List.exists_cons_of_ne_nil (segmentsFrom_ne_nil (depth + balance [c]) cs)
  exact ⟨s, ss, hs, by rw [hs]⟩

theorem segmentsFrom_append (cs : List Char) (h : Enclosed depth p) :
    ∃ s ss, segmentsFrom (depth + balance p) cs = s :: ss ∧
      segmentsFrom depth (p ++ cs) = (p ++ s) :: ss := by
  induction p generalizing depth with
  | nil => simpa using List.exists_cons_of_ne_nil (segmentsFrom_ne_nil depth cs)
  | cons c p ih =>
    obtain ⟨hc, hp⟩ := enclosed_cons.mp h
    obtain ⟨s, ss, hs, he⟩ := ih hp
    obtain ⟨t, ts, ht, hk⟩ := segmentsFrom_keep (p ++ cs) hc
    cases he.symm.trans ht
    exact ⟨s, ss, by rw [balance_cons, ← Int.add_assoc, hs], hk⟩

/-- A text that stays whole between two commas outside of brackets, and leaves as many brackets open
as there were. -/
structure IsSegment (cs : List Char) : Prop where
  enclosed : Enclosed 0 cs
  balance : balance cs = 0

theorem segments_of_isSegment (h : IsSegment p) : segments p = [p] := by
  obtain ⟨s, ss, hs, he⟩ := segmentsFrom_append [] h.enclosed
  cases hs
  simpa [segments] using he

theorem segments_append_cons (h : IsSegment p) :
    segments (p ++ ',' :: cs) = p :: segments cs := by
  obtain ⟨s, ss, hs, he⟩ := segmentsFrom_append (',' :: cs) h.enclosed
  rw [h.balance, Int.zero_add, segmentsFrom_cut (Int.le_refl 0)] at hs
  cases hs
  rwa [List.append_nil] at he

/-- Parts joined with commas are cut apart again. -/
theorem segments_join (hn : ps ≠ []) (h : ∀ p ∈ ps, IsSegment p) :
    segments (Text.join [','] ps) = ps := by
  induction ps with
  | nil => exact absurd rfl hn
  | cons p ps ih =>
    obtain ⟨hp, hps⟩ := List.forall_mem_cons.mp h
    rcases eq_or_ne ps [] with rfl | hne
    · exact segments_of_isSegment hp
    · rw [Text.join_cons _ _ hne, List.append_assoc, List.singleton_append,
        segments_append_cons hp, ih hne hps]

/-- The first part starts with the brackets that are open before the text, and any other one behind
a comma outside of brackets. -/
theorem enclosed_segmentsFrom {s : List Char} {ss : List (List Char)}
    (h : segmentsFrom depth cs = s :: ss) :
    Enclosed depth s ∧ ∀ t ∈ ss, ∃ d ≤ 0, Enclosed d t := by
  induction cs generalizing depth s ss with
  | nil =>
    cases h
    exact ⟨enclosed_of_not_mem (by simp), by simp⟩
  | cons c cs ih =>
    by_cases hc : c = ',' ∧ depth ≤ 0
    · obtain ⟨rfl, hd⟩ := hc
      rw [segmentsFrom_cut hd] at h
      cases h
      refine ⟨enclosed_of_not_mem (by simp), fun t ht => ?_⟩
      obtain ⟨s, ss, hs⟩ := List.exists_cons_of_ne_nil (segmentsFrom_ne_nil depth cs)
      obtain ⟨hfirst, hrest⟩ := ih hs
      rw [hs] at ht
      rcases List.mem_cons.mp ht with rfl | ht
      · exact ⟨depth, hd, hfirst⟩
      · exact hrest t ht
    · have hkeep : c = ',' → 0 < depth := fun he => by
        by_contra hd
        exact hc ⟨he, by omega⟩
      obtain ⟨s, ss, hs, he⟩ := segmentsFrom_keep cs hkeep
      cases he.symm.trans h
      obtain ⟨hfirst, hrest⟩ := ih hs
      exact ⟨enclosed_cons.mpr ⟨hkeep, hfirst⟩, hrest⟩

theorem enclosed_of_mem_segments {s : List Char} (h : s ∈ segments cs) : Enclosed 0 s := by
  obtain ⟨t, ts, ht⟩ := List.exists_cons_of_ne_nil (segmentsFrom_ne_nil 0 cs)
  obtain ⟨hfirst, hrest⟩ := enclosed_segmentsFrom ht
  rw [segments, ht] at h
  rcases List.mem_cons.mp h with rfl | h
  · exact hfirst
  · obtain ⟨d, hd, hs⟩ := hrest s h
    exact hs.mono hd

end Scaffold.Field
