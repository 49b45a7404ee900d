import Scaffold.Proofs.Text.Blank
import Scaffold.Text.Casing

/-! # Small letters

Lowering a text twice is lowering it once: no run of the case table leads back into a run. What a
character is lowered to is never a blank or a mark of punctuation that was not there before.
-/

namespace Scaffold.Text

variable {c d : Char} {cs : List Char}

namespace CaseRun

/-- Whether the images of a run keep one parity. -/
def thin (r : CaseRun) : Bool := r.step == 2 || r.first == r.last

/-- Whether no run of a sorted list meets the numbers from `lo` to `hi`. When `thin` holds, only
those of the parity of `lo` count. -/
def clear (thin : Bool) (lo hi : Nat) : List CaseRun → Bool
  | [] => true
  | r :: rs =>
    bif Nat.blt r.last lo then clear thin lo hi rs
    else Nat.blt hi r.first ||
      thin && Nat.beq r.step 2 && Nat.beq ((lo + r.first) % 2) 1 && clear thin lo hi rs

def avoids (r : CaseRun) (k : CharClass) : Bool :=
  k.all fun b => Nat.blt (r.image r.last) b.1 || Nat.blt b.2 (r.image r.first)

/-- What no image may be: zero, a surrogate, or the one character that is lowered to two. -/
def refused : CharClass := [(0, 0), (0x130, 0x130), (0xD800, 0xDFFF)]

def settled (r : CaseRun) (runs : List CaseRun) : Bool :=
  Nat.blt (r.image r.last) 0x110000 && r.avoids refused &&
    clear r.thin (r.image r.first) (r.image r.last) runs

variable {r : CaseRun} {rs : List CaseRun} {n lo hi : Nat}

theorem contains_iff :
    r.contains n = true ↔ r.first ≤ n ∧ n ≤ r.last ∧ (n - r.first) % r.step = 0 := by
  simp [contains, and_assoc]

theorem not_contains_of_clear {t : Bool} (hs : rs.Pairwise fun a b => a.first ≤ b.first)
    (hc : clear t lo hi rs = true) (hl : lo ≤ n) (hh : n ≤ hi)
    (ht : t = true → n % 2 = lo % 2) : ∀ r ∈ rs, ¬ r.contains n = true := by
  induction rs with
  | nil => simp
  | cons a rs ih =>
    obtain ⟨ha, hs⟩ := List.pairwise_cons.mp hs
    rw [List.forall_mem_cons, contains_iff]
    rw [clear] at hc
    cases hb : Nat.blt a.last lo with
    | true =>
      rw [hb, cond_true] at hc
      rw [Nat.blt_eq] at hb
      exact ⟨by omega, ih hs hc⟩
    | false =>
      simp only [hb, cond_false, Bool.or_eq_true, Bool.and_eq_true, Nat.blt_eq, Nat.beq_eq] at hc
      rcases hc with hlt | ⟨⟨⟨rfl, h2⟩, hp⟩, hr⟩
      · refine ⟨by omega, fun b hm hn => ?_⟩
        have := ha b hm
        have := contains_iff.mp hn
        omega
      · have hn := ht rfl
        refine ⟨fun ⟨h₁, _, h₃⟩ => ?_, ih hs hr⟩
        rw [h2] at h₃
        omega

theorem image_bounds (h : r.contains n = true) :
    r.image r.first ≤ r.image n ∧ r.image n ≤ r.image r.last := by
  rw [contains_iff] at h
  simp only [image]
  omega

theorem image_parity (h : r.contains n = true) (ht : r.thin = true) (hp : 0 < r.image r.first) :
    r.image n % 2 = r.image r.first % 2 := by
  rw [contains_iff] at h
  simp only [thin, Bool.or_eq_true, beq_iff_eq] at ht
  simp only [image] at hp ⊢
  rcases ht with ht | ht
  · rw [ht] at h
    omega
  · have hn : n = r.first := by omega
    rw [hn]

theorem avoids_image {k : CharClass} (h : r.contains n = true) (ha : r.avoids k = true) :
    ∀ b ∈ k, ¬ (b.1 ≤ r.image n ∧ r.image n ≤ b.2) := by
  intro b hb
  have hi := image_bounds h
  have := List.all_eq_true.mp ha b hb
  simp only [Bool.or_eq_true, Nat.blt_eq] at this
  omega

theorem toNat_image (h : r.contains n = true) (hs : r.settled rs = true) :
    (Char.ofNat (r.image n)).toNat = r.image n := by
  simp only [settled, Bool.and_eq_true, Nat.blt_eq] at hs
  have hb := image_bounds h
  have hn := avoids_image h hs.1.2 (0xD800, 0xDFFF) (by simp [refused])
  have hv : (r.image n).isValidChar := by
    rw [Nat.isValidChar]
    omega
  rw [Char.ofNat, dif_pos hv]
  rfl

theorem not_contains_image (h : r.contains n = true) (hs : r.settled rs = true)
    (hr : rs.Pairwise fun a b => a.first ≤ b.first) :
    ∀ r' ∈ rs, ¬ r'.contains (r.image n) = true := by
  simp only [settled, Bool.and_eq_true] at hs
  have hb := image_bounds h
  have hp : 0 < r.image r.first := by
    have hf : r.contains r.first = true := by
      rw [contains_iff] at h ⊢
      exact ⟨Nat.le_refl _, by omega, by simp⟩
    have := avoids_image hf hs.1.2 (0, 0) (by simp [refused])
    omega
  exact not_contains_of_clear hr hs.2 hb.1 hb.2 fun ht => image_parity h ht hp

end CaseRun

/-- A character is converted by itself, as the table of special cases has it, or by a run. -/
theorem convert_cases (special : List (Nat × List Nat)) (runs : List CaseRun) (c : Char) :
    convert special runs c = [c] ∨
      (∃ cs, (c.toNat, cs) ∈ special ∧ convert special runs c = cs.map Char.ofNat) ∨
      ∃ r ∈ runs, r.contains c.toNat = true ∧
        convert special runs c = [Char.ofNat (r.image c.toNat)] := by
  rw [convert]
  split
  · rename_i cs hs
    obtain ⟨pre, post, rfl, -⟩ := List.lookup_eq_some_iff.mp hs
    exact Or.inr (Or.inl ⟨cs, by simp, rfl⟩)
  split
  · rename_i r hr
    have hc : r.contains c.toNat = true := by simpa using List.find?_some hr
    exact Or.inr (Or.inr ⟨r, List.mem_of_find?_eq_some hr, hc, rfl⟩)
  · exact Or.inl rfl

theorem lowerRuns_sorted : lowerRuns.Pairwise fun a b => a.first ≤ b.first := by
  have : IsTrans CaseRun fun a b => a.first ≤ b.first := ⟨fun _ _ _ => Nat.le_trans⟩
  rw [← List.isChain_iff_pairwise]
  decide +kernel

theorem lowerRuns_settled : ∀ r ∈ lowerRuns, r.settled lowerRuns = true := by
  rw [← List.all_eq_true]
  decide +kernel

theorem lowerChar_cases (c : Char) : lowerChar c = [c] ∨ c = 'İ' ∨
    ∃ r ∈ lowerRuns, r.contains c.toNat = true ∧
      lowerChar c = [Char.ofNat (r.image c.toNat)] := by
  rcases convert_cases lowerExpansions lowerRuns c with hc | ⟨cs, hm, -⟩ | hr
  · exact Or.inl hc
  · obtain ⟨hn, -⟩ : c.toNat = 304 ∧ cs = [105, 775] := by simpa [lowerExpansions] using hm
    exact Or.inr (Or.inl (Char.toNat_inj.mp hn))
  · exact Or.inr (Or.inr hr)

def IsSmall (c : Char) : Prop := lowerChar c = [c]

instance (c : Char) : Decidable (IsSmall c) := inferInstanceAs (Decidable (_ = _))

theorem isSmall_of_lt (h : c.toNat < 0x41 ∨ 0x5A < c.toNat ∧ c.toNat < 0xC0) : IsSmall c := by
  have ha : ∀ r ∈ lowerRuns, 0xC0 ≤ r.first ∨ 0x41 ≤ r.first ∧ r.last ≤ 0x5A := by decide +kernel
  rcases lowerChar_cases c with hc | rfl | ⟨r, hr, hn, -⟩
  · exact hc
  · revert h
    decide
  · have := ha r hr
    have := CaseRun.contains_iff.mp hn
    omega

theorem isSmall_image {r : CaseRun} {n : Nat} (hr : r ∈ lowerRuns) (h : r.contains n = true) :
    IsSmall (Char.ofNat (r.image n)) := by
  have hs := lowerRuns_settled r hr
  have hn := CaseRun.toNat_image h hs
  rcases lowerChar_cases (Char.ofNat (r.image n)) with hc | hc | ⟨r', hr', hi, -⟩
  · exact hc
  · simp only [CaseRun.settled, Bool.and_eq_true] at hs
    have ha := CaseRun.avoids_image h hs.1.2 (0x130, 0x130) (by simp [CaseRun.refused])
    rw [← hn, hc] at ha
    exact absurd ⟨Nat.le_refl _, Nat.le_refl _⟩ ha
  · exact absurd (hn ▸ hi) (CaseRun.not_contains_image h hs lowerRuns_sorted r' hr')

/-- Whether `d` may stand in a lowered text for `c`. -/
def Lowers (c d : Char) : Prop := d ∈ lowerChar c ∨ c = 'Σ' ∧ d = 'ς'

theorem Lowers.cases (h : Lowers c d) : IsSmall c ∧ d = c ∨ d = 'i' ∨ d = '\u0307' ∨ d = 'ς' ∨
    ∃ r ∈ lowerRuns, ∃ n, r.contains n = true ∧ d = Char.ofNat (r.image n) := by
  rcases h with h | ⟨-, rfl⟩
  · rcases lowerChar_cases c with hc | rfl | ⟨r, hr, hn, hc⟩
    · rw [hc, List.mem_singleton] at h
      exact Or.inl ⟨hc, h⟩
    · have hi : lowerChar 'İ' = ['i', '\u0307'] := by decide
      rw [hi] at h
      simp only [List.mem_cons, List.not_mem_nil, or_false] at h
      tauto
    · rw [hc, List.mem_singleton] at h
      exact Or.inr (Or.inr (Or.inr (Or.inr ⟨r, hr, _, hn, h⟩)))
  · simp

theorem Lowers.isSmall (h : Lowers c d) : IsSmall d := by
  rcases h.cases with ⟨h, rfl⟩ | rfl | rfl | rfl | ⟨r, hr, n, hn, rfl⟩
  · exact h
  · decide
  · decide
  · decide
  · exact isSmall_image hr hn

theorem lowerChar_ne_nil (c : Char) : lowerChar c ≠ [] := by
  rcases lowerChar_cases c with hc | rfl | ⟨r, -, -, hc⟩
  · simp [hc]
  · decide
  · simp [hc]

theorem lowerFrom_cons (before : Bool) (c : Char) (cs : List Char) :
    ∃ w, w ≠ [] ∧ (∀ d ∈ w, Lowers c d) ∧
      lowerFrom before (c :: cs) = w ++ lowerFrom (casedAfter before c) cs := by
  rw [lowerFrom]
  split
  · rename_i hc
    refine ⟨_, List.cons_ne_nil _ _, fun d hd => ?_, rfl⟩
    rw [List.mem_singleton] at hd
    subst hc hd
    split
    · exact Or.inr ⟨rfl, rfl⟩
    · exact Or.inl (by decide)
  · exact ⟨_, lowerChar_ne_nil c, fun d hd => Or.inl hd, rfl⟩

theorem mem_lowerFrom {before : Bool} (h : d ∈ lowerFrom before cs) : ∃ c ∈ cs, Lowers c d := by
  induction cs generalizing before with
  | nil => simp [lowerFrom] at h
  | cons c cs ih =>
    obtain ⟨w, -, hw, he⟩ := lowerFrom_cons before c cs
    rw [he, List.mem_append] at h
    rcases h with h | h
    · exact ⟨c, List.mem_cons_self, hw d h⟩
    · obtain ⟨b, hb, hl⟩ := ih h
      exact ⟨b, List.mem_cons_of_mem c hb, hl⟩

theorem lowerFrom_of_isSmall {before : Bool} (h : ∀ c ∈ cs, IsSmall c) :
    lowerFrom before cs = cs := by
  induction cs generalizing before with
  | nil => rfl
  | cons c cs ih =>
    have hc : lowerChar c = [c] := h c List.mem_cons_self
    have hs : c ≠ 'Σ' := by
      rintro rfl
      revert hc
      decide
    rw [lowerFrom, if_neg hs, hc, ih fun b hb => h b (List.mem_cons_of_mem c hb)]
    rfl

theorem lower_of_isSmall (h : ∀ c ∈ cs, IsSmall c) : lower cs = cs := lowerFrom_of_isSmall h

theorem mem_lowerFrom_of_isSmall {before : Bool} (h : c ∈ cs) (hc : IsSmall c) :
    c ∈ lowerFrom before cs := by
  induction cs generalizing before with
  | nil => simp at h
  | cons d cs ih =>
    rw [lowerFrom, List.mem_append]
    rcases List.mem_cons.mp h with rfl | h
    · have hs : c ≠ 'Σ' := by
        rintro rfl
        revert hc
        decide
      have hl : lowerChar c = [c] := hc
      simp [hs, hl]
    · exact Or.inr (ih h)

theorem isSmall_of_mem_lower (h : d ∈ lower cs) : IsSmall d := by
  obtain ⟨c, -, hl⟩ := mem_lowerFrom h
  exact hl.isSmall

/-- Lowering a text twice is lowering it once. -/
theorem lower_lower (cs : List Char) : lower (lower cs) = lower cs :=
  lower_of_isSmall fun _ h => isSmall_of_mem_lower h

theorem lowerFrom_eq_nil {before : Bool} : lowerFrom before cs = [] ↔ cs = [] := by
  cases cs with
  | nil => simp [lowerFrom]
  | cons c cs =>
    obtain ⟨w, hn, -, he⟩ := lowerFrom_cons before c cs
    simp [he, hn]

theorem lower_eq_nil : lower cs = [] ↔ cs = [] := lowerFrom_eq_nil

theorem head?_lowerFrom {before : Bool} (h : d ∈ (lowerFrom before cs).head?) :
    ∃ c ∈ cs.head?, Lowers c d := by
  cases cs with
  | nil => simp [lowerFrom] at h
  | cons c cs =>
    obtain ⟨w, hn, hw, he⟩ := lowerFrom_cons before c cs
    rw [he, List.head?_append_of_ne_nil _ hn] at h
    exact ⟨c, rfl, hw d (List.mem_of_mem_head? h)⟩

theorem getLast?_lowerFrom {before : Bool} (h : d ∈ (lowerFrom before cs).getLast?) :
    ∃ c ∈ cs.getLast?, Lowers c d := by
  induction cs generalizing before with
  | nil => simp [lowerFrom] at h
  | cons c cs ih =>
    obtain ⟨w, hn, hw, he⟩ := lowerFrom_cons before c cs
    rw [he] at h
    rcases eq_or_ne cs [] with rfl | hcs
    · simp only [lowerFrom, List.append_nil] at h
      exact ⟨c, rfl, hw d (List.mem_of_mem_getLast? h)⟩
    · rw [List.getLast?_append_of_ne_nil _ (mt lowerFrom_eq_nil.mp hcs)] at h
      obtain ⟨b, hb, hl⟩ := ih h
      exact ⟨b, by rwa [List.getLast?_cons_of_ne_nil hcs], hl⟩

def spared (k : CharClass) : Bool :=
  lowerRuns.all (·.avoids k) && !k.has 'i' && !k.has '\u0307' && !k.has 'ς'

theorem Lowers.eq_of_has {k : CharClass} (hk : spared k = true) (h : Lowers c d)
    (hd : k.has d = true) : d = c := by
  simp only [spared, Bool.and_eq_true, Bool.not_eq_true', List.all_eq_true] at hk
  obtain ⟨⟨⟨ha, hi⟩, hu⟩, hf⟩ := hk
  rcases h.cases with ⟨-, rfl⟩ | rfl | rfl | rfl | ⟨r, hr, n, hn, rfl⟩
  · rfl
  · rw [hi] at hd
    cases hd
  · rw [hu] at hd
    cases hd
  · rw [hf] at hd
    cases hd
  · obtain ⟨b, hb, hl⟩ := CharClass.has_iff.mp hd
    rw [CaseRun.toNat_image hn (lowerRuns_settled r hr)] at hl
    exact absurd hl (CaseRun.avoids_image hn (ha r hr) b hb)

theorem mem_of_mem_lower {k : CharClass} (hk : spared k = true) (hd : k.has d = true)
    (h : d ∈ lower cs) : d ∈ cs := by
  obtain ⟨c, hc, hl⟩ := mem_lowerFrom h
  rwa [hl.eq_of_has hk hd]

theorem spared_blanks : spared blanks = true := by decide +kernel

theorem Lowers.isBlank_eq_false (h : Lowers c d) (hc : isBlank c = false) :
    isBlank d = false := by
  by_contra hd
  rw [Bool.not_eq_false] at hd
  have he : d = c := h.eq_of_has spared_blanks hd
  simp [he, hc] at hd

theorem trimmed_lower (h : Trimmed cs) : Trimmed (lower cs) := by
  constructor
  · intro d hd
    obtain ⟨c, hc, hl⟩ := head?_lowerFrom hd
    exact hl.isBlank_eq_false (h.1 c hc)
  · intro d hd
    obtain ⟨c, hc, hl⟩ := getLast?_lowerFrom hd
    exact hl.isBlank_eq_false (h.2 c hc)

end Scaffold.Text
