import Mathlib.Data.List.Basic
import Scaffold.Text.Split

/-! # Pieces of a text

Splitting at a separator is the inverse of joining pieces that do not hold it. Cutting off an
ending finds what stood before it.
-/

namespace Scaffold.Text

variable {sep c : Char} {p cs : List Char} {ps : List (List Char)}

theorem split_cons_ne (cs : List Char) (h : c ≠ sep) :
    ∃ p ps, split sep cs = p :: ps ∧ split sep (c :: cs) = (c :: p) :: ps := by
  cases hs : split sep cs with
  | nil => exact absurd hs (split_ne_nil sep cs)
  | cons p ps => exact ⟨p, ps, rfl, by simp [split, h, hs]⟩

theorem split_of_not_mem (h : sep ∉ cs) : split sep cs = [cs] := by
  induction cs with
  | nil => rfl
  | cons c cs ih =>
    have hc : c ≠ sep := fun he => h (he ▸ List.mem_cons_self)
    have ht : sep ∉ cs := fun hm => h (List.mem_cons_of_mem c hm)
    simp [split, hc, ih ht]

theorem split_append_cons (h : sep ∉ p) : split sep (p ++ sep :: cs) = p :: split sep cs := by
  induction p with
  | nil => simp [split]
  | cons c p ih =>
    have hc : c ≠ sep := fun he => h (he ▸ List.mem_cons_self)
    have ht : sep ∉ p := fun hm => h (List.mem_cons_of_mem c hm)
    simp [split, hc, ih ht]

theorem split_append_sep (sep : Char) (as bs : List Char) :
    split sep (as ++ sep :: bs) = split sep as ++ split sep bs := by
  induction as with
  | nil => simp [split]
  | cons c as ih =>
    by_cases hc : c = sep
    · rw [List.cons_append, split, if_pos hc, ih, split, if_pos hc, List.cons_append]
    · obtain ⟨p, ps, hs, he⟩ := split_cons_ne as hc
      rw [List.cons_append, split, if_neg hc, ih, he, hs]
      rfl

theorem exists_suffix_split (sep : Char) (as : List Char) : ∃ pre l, l <:+ as ∧ sep ∉ l ∧
    ∀ x, split sep (as ++ x) = pre ++ split sep (l ++ x) := by
  by_cases hm : sep ∈ as
  · obtain ⟨back, front, he, hb⟩ := List.eq_append_cons_of_mem (List.mem_reverse.mpr hm)
    obtain rfl : as = front.reverse ++ sep :: back.reverse := by
      rw [← List.reverse_reverse as, he, List.reverse_append, List.reverse_cons]
      simp
    refine ⟨split sep front.reverse, back.reverse, ?_, by simpa using hb, fun x => ?_⟩
    · exact (List.suffix_cons sep _).trans (List.suffix_append _ _)
    · rw [List.append_assoc, List.cons_append, split_append_sep]
  · exact ⟨[], as, List.suffix_rfl, hm, fun x => rfl⟩

theorem exists_split_append (sep : Char) (as bs : List Char) :
    ∃ pre l r post, l <:+ as ∧ sep ∉ l ∧ r <+: bs ∧ sep ∉ r ∧ ∀ x, sep ∉ x →
      split sep (as ++ (x ++ bs)) = pre ++ (l ++ (x ++ r)) :: post := by
  obtain ⟨pre, l, hl, hn, hpre⟩ := exists_suffix_split sep as
  by_cases hm : sep ∈ bs
  · obtain ⟨r, post, rfl, hr⟩ := List.eq_append_cons_of_mem hm
    refine ⟨pre, l, r, split sep post, hl, hn, List.prefix_append _ _, hr, fun x hx => ?_⟩
    have hpiece : sep ∉ l ++ (x ++ r) := by simp [hn, hx, hr]
    rw [hpre, ← List.append_assoc x, ← List.append_assoc l, split_append_cons hpiece]
  · refine ⟨pre, l, bs, [], hl, hn, List.prefix_rfl, hm, fun x hx => ?_⟩
    rw [hpre, split_of_not_mem (by simp [hn, hx, hm])]

theorem not_mem_of_mem_split (h : p ∈ split sep cs) : sep ∉ p := by
  induction cs generalizing p with
  | nil => simp_all [split]
  | cons c cs ih =>
    by_cases hc : c = sep
    · rw [split, if_pos hc] at h
      rcases List.mem_cons.mp h with rfl | h
      · simp
      · exact ih h
    · obtain ⟨q, qs, hs, he⟩ := split_cons_ne cs hc
      rw [he] at h
      rcases List.mem_cons.mp h with rfl | h
      · have hq : sep ∉ q := ih (hs ▸ List.mem_cons_self)
        simp [hq, Ne.symm hc]
      · exact ih (hs ▸ List.mem_cons_of_mem q h)

theorem mem_of_mem_split (h : p ∈ split sep cs) (hc : c ∈ p) : c ∈ cs := by
  induction cs generalizing p with
  | nil => simp_all [split]
  | cons d cs ih =>
    by_cases hd : d = sep
    · rw [split, if_pos hd] at h
      rcases List.mem_cons.mp h with rfl | h
      · simp at hc
      · exact List.mem_cons_of_mem d (ih h hc)
    · obtain ⟨q, qs, hs, he⟩ := split_cons_ne cs hd
      rw [he] at h
      rcases List.mem_cons.mp h with rfl | h
      · rcases List.mem_cons.mp hc with rfl | hc
        · exact List.mem_cons_self
        · exact List.mem_cons_of_mem d (ih (hs ▸ List.mem_cons_self) hc)
      · exact List.mem_cons_of_mem d (ih (hs ▸ List.mem_cons_of_mem q h) hc)

theorem cut_append_cons (h : sep ∉ p) : cut sep (p ++ sep :: cs) = (p, some cs) := by
  induction p with
  | nil => simp [cut]
  | cons c p ih =>
    have hc : c ≠ sep := fun he => h (he ▸ List.mem_cons_self)
    have ht : sep ∉ p := fun hm => h (List.mem_cons_of_mem c hm)
    simp [cut, hc, ih ht]

theorem cut_of_not_mem (h : sep ∉ cs) : cut sep cs = (cs, none) := by
  induction cs with
  | nil => rfl
  | cons c cs ih =>
    have hc : c ≠ sep := fun he => h (he ▸ List.mem_cons_self)
    have ht : sep ∉ cs := fun hm => h (List.mem_cons_of_mem c hm)
    simp [cut, hc, ih ht]

theorem eq_of_cut_eq_some {q : List Char} (h : cut sep cs = (p, some q)) :
    cs = p ++ sep :: q := by
  induction cs generalizing p with
  | nil => cases h
  | cons c cs ih =>
    rw [cut] at h
    split at h
    · rename_i hc
      cases h
      rw [hc, List.nil_append]
    · obtain ⟨rfl, hq⟩ := Prod.mk.inj h
      rw [List.cons_append, ← ih (Prod.ext rfl hq)]

theorem join_cons (sep : List Char) (p : List Char) (hn : ps ≠ []) :
    join sep (p :: ps) = p ++ sep ++ join sep ps := by
  cases ps with
  | nil => exact absurd rfl hn
  | cons q ps => rfl

theorem join_append (sep : List Char) {qs : List (List Char)} (hp : ps ≠ []) (hq : qs ≠ []) :
    join sep (ps ++ qs) = join sep ps ++ sep ++ join sep qs := by
  induction ps with
  | nil => exact absurd rfl hp
  | cons p ps ih =>
    rcases eq_or_ne ps [] with rfl | hn
    · rw [List.singleton_append, join_cons _ _ hq]
      rfl
    · rw [List.cons_append, join_cons _ _ (by simp [hn]), join_cons _ _ hn, ih hn]
      simp

theorem split_join (hn : ps ≠ []) (h : ∀ p ∈ ps, sep ∉ p) : split sep (join [sep] ps) = ps := by
  induction ps with
  | nil => exact absurd rfl hn
  | cons p ps ih =>
    have hp : sep ∉ p := h p List.mem_cons_self
    rcases eq_or_ne ps [] with rfl | hn'
    · exact split_of_not_mem hp
    · rw [join_cons _ _ hn', List.append_assoc, List.singleton_append, split_append_cons hp,
        ih hn' fun q hq => h q (List.mem_cons_of_mem p hq)]

/-- The pieces are the only texts without the separator that join to the text. -/
theorem split_eq_iff :
    split sep cs = ps ↔ ps ≠ [] ∧ (∀ p ∈ ps, sep ∉ p) ∧ join [sep] ps = cs := by
  constructor
  · rintro rfl
    exact ⟨split_ne_nil sep cs, fun p hp => not_mem_of_mem_split hp, join_split sep cs⟩
  · rintro ⟨hn, hp, rfl⟩
    exact split_join hn hp

theorem mem_join {sep : List Char} :
    c ∈ join sep ps → c ∈ sep ∨ ∃ p ∈ ps, c ∈ p := by
  induction ps with
  | nil => simp [join]
  | cons p ps ih =>
    rcases eq_or_ne ps [] with rfl | hn
    · intro h
      exact Or.inr ⟨p, List.mem_cons_self, h⟩
    · rw [join_cons _ _ hn]
      simp only [List.mem_append, List.mem_cons, exists_eq_or_imp]
      rintro ((h | h) | h)
      · exact Or.inr (Or.inl h)
      · exact Or.inl h
      · exact (ih h).imp_right Or.inr

theorem mem_join_of_mem {sep : List Char} (h : p ∈ ps) (hc : c ∈ p) : c ∈ join sep ps := by
  induction ps with
  | nil => cases h
  | cons q ps ih =>
    rcases eq_or_ne ps [] with rfl | hn
    · rwa [List.mem_singleton.mp h] at hc
    · rw [join_cons sep q hn, List.mem_append]
      rcases List.mem_cons.mp h with rfl | h
      · exact Or.inl (List.mem_append_left sep hc)
      · exact Or.inr (ih h)

theorem join_ne_nil (sep : List Char) (h : p ∈ ps) (hp : p ≠ []) : join sep ps ≠ [] := by
  obtain ⟨c, hc⟩ := List.exists_mem_of_ne_nil p hp
  exact List.ne_nil_of_mem (mem_join_of_mem h hc)

/-- What pieces and their separator have, and what is kept by appending, their joining has. -/
theorem join_forall₂ {τ : Type} {P : List Char → List τ → Prop} {sep : List Char} {t : List τ}
    {tss : List (List τ)} (hn : P [] [])
    (ha : ∀ as ts bs us, P as ts → P bs us → P (as ++ bs) (ts ++ us)) (hs : P sep t)
    (h : List.Forall₂ P ps tss) : P (join sep ps) (List.intercalate t tss) := by
  induction h with
  | nil => exact hn
  | @cons p ts ps tss hp hps ih =>
    cases hps with
    | nil => simpa [join] using hp
    | cons hq hqs =>
      rw [join_cons _ _ (List.cons_ne_nil _ _),
        List.intercalate_cons_of_ne_nil (List.cons_ne_nil _ _)]
      exact ha _ _ _ _ (ha _ _ _ _ hp hs) ih

theorem toList_intercalate (s : String) (ss : List String) :
    (String.intercalate s ss).toList = join s.toList (ss.map String.toList) := by
  induction ss with
  | nil => simp [join]
  | cons t ss ih =>
    cases ss with
    | nil => simp [join]
    | cons u ss => simpa [join] using ih

theorem before?_eq_some {tail : List Char} :
    before? tail cs = some p ↔ cs = p ++ tail := by
  rw [before?]
  constructor
  · intro h
    split at h
    · rename_i hs
      obtain ⟨q, rfl⟩ := List.isSuffixOf_iff_suffix.mp hs
      simpa using h
    · cases h
  · rintro rfl
    have hs : tail.isSuffixOf (p ++ tail) = true :=
      List.isSuffixOf_iff_suffix.mpr (List.suffix_append p tail)
    simp [hs]

theorem before?_singleton_eq_none (h : cs.getLast? ≠ some c) : before? [c] cs = none := by
  rw [Option.eq_none_iff_forall_ne_some]
  intro p hp
  apply h
  rw [before?_eq_some.mp hp, List.getLast?_concat]

theorem after?_append (head cs : List Char) : after? head (head ++ cs) = some cs := by
  simp [after?]

end Scaffold.Text
