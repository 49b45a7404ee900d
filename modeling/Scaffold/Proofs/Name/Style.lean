import Scaffold.Proofs.Name.Grammar
import Scaffold.Proofs.Text.Casing
import Scaffold.Proofs.Text.Split
import Scaffold.Template.Basic

/-! # The characters of a respelled name

Respelling a name brings in no character but those of a word, and a hyphen in the style that joins
words by hyphens. So a class of ASCII characters that holds all of these is closed under every
respelling.
-/

namespace Scaffold

/-- A class of ASCII characters that holds the characters of a word. -/
structure Name.Closed (p : Char → Bool) : Prop where
  ascii : ∀ c, p c = true → c.toNat < 128
  word : ∀ c, Name.isWordChar c = true → p c = true

namespace Text

variable {c d : Char}

theorem convert_of_forall {special : List (Nat × List Nat)} {runs : List CaseRun}
    (hs : ∀ e ∈ special, e.1 ≠ c.toNat) (hr : ∀ r ∈ runs, ¬ r.contains c.toNat = true) :
    convert special runs c = [c] := by
  have hl : special.lookup c.toNat = none :=
    List.lookup_eq_none_iff.mpr fun e he => bne_iff_ne.mpr (hs e he).symm
  have hf : runs.find? (·.contains c.toNat) = none := List.find?_eq_none.mpr hr
  rw [convert, hl, hf]

theorem exists_eq_ofNat {lo n : Nat} (hl : lo ≤ c.toNat) (hn : c.toNat < lo + n) :
    ∃ i : Fin n, c = Char.ofNat (lo + i) :=
  ⟨⟨c.toNat - lo, by omega⟩, by
    rw [show lo + (c.toNat - lo) = c.toNat by omega, Char.ofNat_toNat]⟩

theorem upperChar_of_not_small (hc : c.toNat < 128)
    (hl : ¬ (0x61 ≤ c.toNat ∧ c.toNat < 0x61 + 26)) : upperChar c = [c] := by
  have he : ∀ e ∈ upperExpansions, 128 ≤ e.1 := by decide +kernel
  have hr : ∀ r ∈ upperRuns, 128 ≤ r.first ∨ 0x61 ≤ r.first ∧ r.last < 0x61 + 26 := by
    decide +kernel
  rw [upperChar]
  apply convert_of_forall
  · intro e h
    have := he e h
    omega
  · intro r h hn
    have := hr r h
    have := CaseRun.contains_iff.mp hn
    omega

theorem mem_upperChar (hc : c.toNat < 128) (h : d ∈ upperChar c) :
    d = c ∨ Name.isLetter d = true := by
  by_cases hl : 0x61 ≤ c.toNat ∧ c.toNat < 0x61 + 26
  · have hall : ∀ i : Fin 26, (upperChar (Char.ofNat (0x61 + i))).all Name.isLetter = true := by
      decide +kernel
    obtain ⟨i, rfl⟩ := exists_eq_ofNat hl.1 hl.2
    exact Or.inr (List.all_eq_true.mp (hall i) d h)
  · rw [upperChar_of_not_small hc hl] at h
    exact Or.inl (List.mem_singleton.mp h)

theorem mem_titleChar (hc : c.toNat < 128) (h : d ∈ titleChar c) :
    d = c ∨ Name.isLetter d = true := by
  have he : ∀ e ∈ titleExceptions, 128 ≤ e.1 := by decide +kernel
  have hl : titleExceptions.lookup c.toNat = none :=
    List.lookup_eq_none_iff.mpr fun e h => bne_iff_ne.mpr (by have := he e h; omega)
  rw [titleChar, hl] at h
  split at h
  · rename_i hs
    cases hs
  · split at h
    · exact Or.inl (List.mem_singleton.mp h)
    · exact mem_upperChar hc h

theorem Lowers.eq_or_isLetter (hc : c.toNat < 128) (h : Lowers c d) :
    d = c ∨ Name.isLetter d = true := by
  by_cases hl : 0x41 ≤ c.toNat ∧ c.toNat < 0x41 + 26
  · have hall : ∀ i : Fin 26, (lowerChar (Char.ofNat (0x41 + i))).all Name.isLetter = true := by
      decide +kernel
    rcases h with h | ⟨rfl, -⟩
    · obtain ⟨i, rfl⟩ := exists_eq_ofNat hl.1 hl.2
      exact Or.inr (List.all_eq_true.mp (hall i) d h)
    · exact absurd hc (by decide)
  · have hs : lowerChar c = [c] := isSmall_of_lt (by omega)
    rcases h with h | ⟨rfl, -⟩
    · rw [hs] at h
      exact Or.inl (List.mem_singleton.mp h)
    · exact absurd hc (by decide)

end Text

namespace Name

variable {p : Char → Bool} {c d sep other : Char} {cs : List Char}

theorem isWordChar_of_isLetter (h : isLetter c = true) : isWordChar c = true := by
  simp [isWordChar, isWordStart, h]

theorem isWordChar_of_isDigit (h : c.isDigit = true) : isWordChar c = true := by
  simp_all [isWordChar, Char.isDigit, Char.le_def]

theorem lt_of_isWordChar (h : isWordChar c = true) : c.toNat < 128 := by
  simp only [isWordChar, isWordStart, isLetter, Bool.or_eq_true, Bool.and_eq_true,
    decide_eq_true_eq, beq_iff_eq, Char.le_def, UInt32.le_iff_toNat_le] at h
  rcases h with ((⟨-, h⟩ | ⟨-, h⟩) | rfl) | ⟨-, h⟩
  · exact Nat.lt_of_le_of_lt h (by decide)
  · exact Nat.lt_of_le_of_lt h (by decide)
  · decide
  · exact Nat.lt_of_le_of_lt h (by decide)

theorem closed_isTypeChar : Closed isTypeChar where
  ascii c h := by
    simp only [isTypeChar, Bool.or_eq_true, beq_iff_eq, or_assoc] at h
    rcases h with h | rfl | rfl | rfl | rfl | rfl
    · exact lt_of_isWordChar h
    all_goals decide
  word c h := by simp [isTypeChar, h]

namespace Closed

theorem of_eq_or_isLetter (hp : Closed p) (hc : p c = true)
    (h : d = c ∨ isLetter d = true) : p d = true := by
  rcases h with rfl | hd
  · exact hc
  · exact hp.word d (isWordChar_of_isLetter hd)

theorem upperChar (hp : Closed p) (hc : p c = true) (h : d ∈ Text.upperChar c) : p d = true :=
  hp.of_eq_or_isLetter hc (Text.mem_upperChar (hp.ascii c hc) h)

theorem lowerFrom (hp : Closed p) {before : Bool} (h : ∀ c ∈ cs, p c = true)
    (hd : d ∈ Text.lowerFrom before cs) : p d = true := by
  obtain ⟨c, hc, hl⟩ := Text.mem_lowerFrom hd
  exact hp.of_eq_or_isLetter (h c hc) (hl.eq_or_isLetter (hp.ascii c (h c hc)))

theorem capitalize (hp : Closed p) (h : ∀ c ∈ cs, p c = true) (hd : d ∈ Text.capitalize cs) :
    p d = true := by
  cases cs with
  | nil => cases hd
  | cons c cs =>
    obtain ⟨hc, hcs⟩ := List.forall_mem_cons.mp h
    rcases List.mem_append.mp hd with hd | hd
    · exact hp.of_eq_or_isLetter hc (Text.mem_titleChar (hp.ascii c hc) hd)
    · exact hp.lowerFrom hcs hd

end Closed

/-! ### Joined words -/

theorem mem_of_mem_dropLeading (h : d ∈ dropLeading sep cs) : d ∈ cs := by
  cases cs with
  | nil => exact h
  | cons c cs =>
    rw [dropLeading] at h
    split at h
    · exact List.mem_cons_of_mem c h
    · exact h

theorem mem_markCapitals (h : d ∈ markCapitals sep cs) : d = sep ∨ d ∈ cs := by
  obtain ⟨c, hc, hd⟩ := List.mem_flatMap.mp h
  split at hd
  · rcases List.mem_cons.mp hd with rfl | hd
    · exact Or.inl rfl
    · exact Or.inr (List.mem_singleton.mp hd ▸ hc)
  · exact Or.inr (List.mem_singleton.mp hd ▸ hc)

theorem mem_collapse {isSep : Char → Bool} {inRun : Bool}
    (h : d ∈ collapse isSep sep inRun cs) : d = sep ∨ d ∈ cs := by
  induction cs generalizing inRun with
  | nil => cases h
  | cons c cs ih =>
    rw [collapse] at h
    split_ifs at h
    · exact (ih h).imp_right (List.mem_cons_of_mem c)
    · rcases List.mem_cons.mp h with rfl | h
      · exact Or.inl rfl
      · exact (ih h).imp_right (List.mem_cons_of_mem c)
    · rcases List.mem_cons.mp h with rfl | h
      · exact Or.inr List.mem_cons_self
      · exact (ih h).imp_right (List.mem_cons_of_mem c)

theorem Closed.joined (hp : Closed p) (hs : p sep = true) (h : ∀ c ∈ cs, p c = true)
    (hd : d ∈ joined sep other cs) : p d = true := by
  refine hp.lowerFrom (fun c hc => ?_) (mem_of_mem_dropLeading hd)
  rcases mem_collapse hc with rfl | hc
  · exact hs
  · rcases mem_markCapitals hc with rfl | hc
    · exact hs
    · exact h c hc

/-! ### Words run together -/

theorem mem_runTogether {head : Bool} (h : d ∈ runTogether head cs) :
    ∃ c ∈ cs, d = c ∨ d ∈ Text.upperChar c := by
  induction cs generalizing head with
  | nil => cases h
  | cons c cs ih =>
    have hrest {b : Bool} (h : d ∈ runTogether b cs) :
        ∃ e ∈ c :: cs, d = e ∨ d ∈ Text.upperChar e := by
      obtain ⟨e, he, hd⟩ := ih h
      exact ⟨e, List.mem_cons_of_mem c he, hd⟩
    rw [runTogether] at h
    split at h
    · exact hrest h
    · rcases List.mem_append.mp h with h | h
      · refine ⟨c, List.mem_cons_self, ?_⟩
        split at h
        · exact Or.inr h
        · exact Or.inl (List.mem_singleton.mp h)
      · exact hrest h

theorem Closed.runTogether (hp : Closed p) {head : Bool} (h : ∀ c ∈ cs, p c = true)
    (hd : d ∈ runTogether head cs) : p d = true := by
  obtain ⟨c, hc, rfl | hd⟩ := mem_runTogether hd
  · exact h d hc
  · exact hp.upperChar (h c hc) hd

theorem Closed.camelChars (hp : Closed p) (h : ∀ c ∈ cs, p c = true) (hd : d ∈ camelChars cs) :
    p d = true := by
  have hr : ∀ b ∈ Name.runTogether false cs, p b = true := fun b => hp.runTogether h
  rw [Name.camelChars] at hd
  split at hd
  · cases hd
  · rename_i c rest he
    rw [he] at hr
    rcases List.mem_append.mp hd with hd | hd
    · refine hp.lowerFrom (fun b hb => ?_) hd
      rw [List.mem_singleton.mp hb]
      exact hr c List.mem_cons_self
    · exact hr d (List.mem_cons_of_mem c hd)

theorem Closed.pascalChars (hp : Closed p) (h : ∀ c ∈ cs, p c = true) (hd : d ∈ pascalChars cs) :
    p d = true := by
  have hr : ∀ b ∈ Name.runTogether false cs, p b = true := fun b => hp.runTogether h
  rw [Name.pascalChars] at hd
  split at hd
  · cases hd
  · rename_i c rest he
    rw [he] at hr
    rcases List.mem_append.mp hd with hd | hd
    · exact hp.upperChar (hr c List.mem_cons_self) hd
    · exact hr d (List.mem_cons_of_mem c hd)

/-! ### Singular and plural -/

theorem irregulars_isLetter : ∀ w ∈ irregulars,
    w.1.all isLetter = true ∧ w.2.all isLetter = true := by decide +kernel

theorem stem?_eq_some {ending : String} {stem : List Char} :
    stem? ending cs = some stem ↔ stem ≠ [] ∧ cs = stem ++ ending.toList := by
  rw [stem?, Option.filter_eq_some_iff, Text.before?_eq_some, decide_eq_true_eq, and_comm]

theorem mem_of_stem? {ending : String} {stem : List Char} (h : stem? ending cs = some stem)
    (hd : d ∈ stem) : d ∈ cs := by
  rw [(stem?_eq_some.mp h).2]
  exact List.mem_append_left _ hd

namespace Closed

theorem likeCase (hp : Closed p) {model word : List Char} (hw : word.all isLetter = true)
    (h : d ∈ likeCase model word) : p d = true := by
  have hword : ∀ c ∈ word, p c = true := fun c hc =>
    hp.word c (isWordChar_of_isLetter (List.all_eq_true.mp hw c hc))
  unfold Name.likeCase at h
  split at h
  · split at h
    · exact hp.capitalize hword h
    · exact hword d h
  · exact hword d h

theorem append (hp : Closed p) {ending : List Char} (h : ∀ c ∈ cs, p c = true)
    (he : ending.all isLetter = true) (hd : d ∈ cs ++ ending) : p d = true := by
  rcases List.mem_append.mp hd with hd | hd
  · exact h d hd
  · exact hp.word d (isWordChar_of_isLetter (List.all_eq_true.mp he d hd))

theorem singularChars (hp : Closed p) (h : ∀ c ∈ cs, p c = true) (hd : d ∈ singularChars cs) :
    p d = true := by
  rw [Name.singularChars] at hd
  split at hd
  · rename_i w hw
    exact hp.likeCase (irregulars_isLetter w (List.mem_of_find?_eq_some hw)).2 hd
  · split at hd
    · rename_i stem hs
      exact hp.append (fun c hc => h c (mem_of_stem? hs hc)) (by decide) hd
    · split at hd
      · exact h d (List.mem_of_mem_take hd)
      · split at hd
        · rename_i stem hs
          split at hd
          · exact h d hd
          · exact h d (mem_of_stem? hs hd)
        · exact h d hd

theorem pluralChars (hp : Closed p) (h : ∀ c ∈ cs, p c = true) (hd : d ∈ pluralChars cs) :
    p d = true := by
  rw [Name.pluralChars] at hd
  split at hd
  · rename_i w hw
    exact hp.likeCase (irregulars_isLetter w (List.mem_of_find?_eq_some hw)).1 hd
  · split_ifs at hd
    · exact hp.append (fun c hc => h c (List.mem_of_mem_take hc)) (by decide) hd
    · exact hp.append h (by decide) hd
    · exact hp.append h (by decide) hd

end Closed

end Name

/-- A class of ASCII characters that holds those of a word is closed under respelling, if it holds
the hyphen when words are joined by hyphens. -/
theorem Name.Closed.apply {p : Char → Bool} (hp : Name.Closed p) {f : Filter}
    (hf : f = .kebab → p '-' = true) {s : String} (h : ∀ c ∈ s.toList, p c = true) :
    ∀ d ∈ (f.apply s).toList, p d = true := by
  intro d hd
  cases f with
  | snake =>
    simp only [Filter.apply, Name.snake, String.toList_ofList] at hd
    exact hp.joined (hp.word '_' (by decide)) h hd
  | kebab =>
    simp only [Filter.apply, Name.kebab, String.toList_ofList] at hd
    exact hp.joined (hf rfl) h hd
  | camel =>
    simp only [Filter.apply, Name.camel, String.toList_ofList] at hd
    exact hp.camelChars h hd
  | pascal =>
    simp only [Filter.apply, Name.pascal, String.toList_ofList] at hd
    exact hp.pascalChars h hd
  | singular =>
    simp only [Filter.apply, Name.singularize, String.toList_ofList] at hd
    exact hp.singularChars h hd
  | plural =>
    simp only [Filter.apply, Name.pluralize, String.toList_ofList] at hd
    exact hp.pluralChars h hd

end Scaffold
