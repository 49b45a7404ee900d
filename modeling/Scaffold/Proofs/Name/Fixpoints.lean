import Scaffold.Proofs.Name.Spelling
import Scaffold.Proofs.Text.Capitals

/-! # Respelling a text twice

Which characters a style leaves in a text, and what it does to a text that it has respelled already.
The styles with capitals leave such a text alone. The joined styles take a joiner off its head, if
there is one, and leave the rest alone.
-/

namespace Scaffold.Name

open Text (IsSmall IsLarge isBlank)

variable {c d sep other : Char} {cs : List Char}

/-! ### Joined words -/

theorem isCapital_of_isSmall (h : IsSmall c) : isCapital c = false := by
  by_contra hc
  simp only [isCapital, Bool.not_eq_false, Bool.and_eq_true, decide_eq_true_eq, Char.le_def,
    UInt32.le_iff_toNat_le] at hc
  have hall : ∀ i : Fin 26, ¬ IsSmall (Char.ofNat (0x41 + i)) := by decide +kernel
  have hl : 0x41 ≤ c.toNat ∧ c.toNat < 0x41 + 26 := ⟨hc.1, Nat.lt_succ_of_le hc.2⟩
  obtain ⟨i, rfl⟩ := Text.exists_eq_ofNat hl.1 hl.2
  exact hall i h

structure Joined (other : Char) (cs : List Char) : Prop where
  small : ∀ c ∈ cs, IsSmall c
  apart : ∀ c ∈ cs, (c == other || isBlank c) = false

theorem Joined.joined_eq (h : Joined other cs) (sep : Char) :
    joined sep other cs = dropLeading sep cs := by
  have hmark : markCapitals sep cs = cs := by
    rw [markCapitals]
    refine (List.flatMap_congr fun c hc => ?_).trans (List.flatMap_singleton' cs)
    simp [isCapital_of_isSmall (h.small c hc)]
  rw [joined, hmark, collapse_of_forall h.apart, Text.lower_of_isSmall h.small]

theorem apart_of_mem_collapse {isSep : Char → Bool} {inRun : Bool} (hs : isSep sep = false)
    (h : d ∈ collapse isSep sep inRun cs) : isSep d = false := by
  induction cs generalizing inRun with
  | nil => cases h
  | cons c cs ih =>
    rw [collapse] at h
    split_ifs at h with hc hr
    · exact ih h
    · rcases List.mem_cons.mp h with rfl | h
      · exact hs
      · exact ih h
    · rcases List.mem_cons.mp h with rfl | h
      · exact Bool.not_eq_true _ ▸ hc
      · exact ih h

theorem joined_joined (hs : (sep == other || isBlank sep) = false)
    (ho : Text.spared [(other.toNat, other.toNat)] = true) (cs : List Char) :
    Joined other (joined sep other cs) := by
  constructor
  · intro d hd
    exact Text.isSmall_of_mem_lower (mem_of_mem_dropLeading hd)
  · intro d hd
    obtain ⟨c, hc, hl⟩ := Text.mem_lowerFrom (mem_of_mem_dropLeading hd)
    have hapart := apart_of_mem_collapse hs hc
    rw [Bool.or_eq_false_iff] at hapart ⊢
    refine ⟨?_, hl.isBlank_eq_false hapart.2⟩
    by_contra hd
    obtain rfl : d = other := by simpa using hd
    obtain rfl := hl.eq_of_has ho (by simp [Text.CharClass.has])
    simp at hapart

/-! ### Words run together -/

def separators : Text.CharClass := (0x2D, 0x2D) :: (0x5F, 0x5F) :: Text.blanks

theorem isSeparator_eq (c : Char) : isSeparator c = separators.has c := by
  have hsingle (d : Char) :
      (c == d) = (decide (d.toNat ≤ c.toNat) && decide (c.toNat ≤ d.toNat)) := by
    rw [Bool.eq_iff_iff]
    simp only [beq_iff_eq, Bool.and_eq_true, decide_eq_true_eq, ← Char.toNat_inj]
    omega
  rw [isSeparator, hsingle, hsingle, Bool.or_assoc]
  rfl

theorem isSeparator_eq_false : isSeparator c = false ↔ c ≠ '-' ∧ c ≠ '_' ∧ isBlank c = false := by
  simp [isSeparator, and_assoc]

theorem runTogether_of_forall (h : ∀ c ∈ cs, isSeparator c = false) :
    runTogether false cs = cs := by
  induction cs with
  | nil => rfl
  | cons c cs ih =>
    obtain ⟨hc, hcs⟩ := List.forall_mem_cons.mp h
    rw [runTogether, hc, ih hcs]
    rfl

/-- Another form of a character for the head of a text: it starts with what is in that form already
and brings in no separator. -/
structure HeadForm (f : Char → List Char) : Prop where
  ne_nil : ∀ c, f c ≠ []
  again : ∀ c, ∀ d ∈ (f c).head?, f d = [d]
  separates : ∀ c, ∀ d ∈ f c, isSeparator d = true → d = c

theorem headForm_lower : HeadForm fun c => Text.lower [c] where
  ne_nil c := mt Text.lower_eq_nil.mp (List.cons_ne_nil c [])
  again c d hd := by
    obtain ⟨b, -, hl⟩ := Text.head?_lowerFrom hd
    exact Text.lower_of_isSmall fun e he => List.mem_singleton.mp he ▸ hl.isSmall
  separates c d hd hs := by
    obtain ⟨b, hb, hl⟩ := Text.mem_lowerFrom hd
    rw [isSeparator_eq] at hs
    rw [hl.eq_of_has (k := separators) (by decide +kernel) hs, List.mem_singleton.mp hb]

theorem headForm_upperChar : HeadForm Text.upperChar where
  ne_nil := Text.upperChar_ne_nil
  again _ _ := Text.isLarge_of_head?
  separates _ _ hd hs := by
    rw [isSeparator_eq] at hs
    exact Text.eq_of_mem_upperChar (k := separators) (by decide +kernel) hd hs

theorem HeadForm.isSeparator_eq_false {f : Char → List Char} (hf : HeadForm f)
    (hc : isSeparator c = false) (hd : d ∈ f c) : isSeparator d = false := by
  by_contra hs
  rw [Bool.not_eq_false] at hs
  rw [hf.separates c d hd hs, hc] at hs
  cases hs

theorem isSeparator_of_mem_runTogether {head : Bool} (h : d ∈ runTogether head cs) :
    isSeparator d = false := by
  induction cs generalizing head with
  | nil => cases h
  | cons c cs ih =>
    rw [runTogether] at h
    split at h
    · exact ih h
    · rename_i hc
      rw [Bool.not_eq_true] at hc
      rcases List.mem_append.mp h with h | h
      · split at h
        · exact headForm_upperChar.isSeparator_eq_false hc h
        · exact List.mem_singleton.mp h ▸ hc
      · exact ih h

def headed (f : Char → List Char) : List Char → List Char
  | [] => []
  | c :: rest => f c ++ rest

theorem camelChars_eq_headed (cs : List Char) :
    camelChars cs = headed (fun c => Text.lower [c]) (runTogether false cs) := by
  rw [camelChars]
  cases runTogether false cs <;> rfl

theorem pascalChars_eq_headed (cs : List Char) :
    pascalChars cs = headed Text.upperChar (runTogether false cs) := by
  rw [pascalChars]
  cases runTogether false cs <;> rfl

namespace HeadForm

variable {f : Char → List Char} (hf : HeadForm f)
include hf

theorem unseparated (h : ∀ c ∈ cs, isSeparator c = false) :
    ∀ d ∈ headed f cs, isSeparator d = false := by
  cases cs with
  | nil => exact h
  | cons c cs =>
    obtain ⟨hc, hcs⟩ := List.forall_mem_cons.mp h
    exact List.forall_mem_append.mpr ⟨fun d => hf.isSeparator_eq_false hc, hcs⟩

theorem headed_headed (cs : List Char) : headed f (headed f cs) = headed f cs := by
  cases cs with
  | nil => rfl
  | cons c cs =>
    obtain ⟨d, t, ht⟩ := List.exists_cons_of_ne_nil (hf.ne_nil c)
    have hd : f d = [d] := hf.again c d (by rw [ht]; rfl)
    simp [headed, ht, hd]

/-- A text that has been run together under a new head has no separators and is left alone. -/
theorem settled (cs : List Char) :
    (∀ d ∈ headed f (runTogether false cs), isSeparator d = false) ∧
      headed f (runTogether false (headed f (runTogether false cs))) =
        headed f (runTogether false cs) := by
  have hrun : ∀ d ∈ runTogether false cs, isSeparator d = false := fun _ =>
    isSeparator_of_mem_runTogether
  have hapart := hf.unseparated hrun
  exact ⟨hapart, by rw [runTogether_of_forall hapart, hf.headed_headed]⟩

end HeadForm

/-! ### All styles -/

def behead (sep : Char) (s : String) : String :=
  if s.toList.head? = some sep then String.ofList s.toList.tail else s

theorem ofList_dropLeading (sep : Char) (cs : List Char) :
    String.ofList (dropLeading sep cs) = behead sep (String.ofList cs) := by
  cases cs with
  | nil => rfl
  | cons c cs =>
    simp only [behead, String.toList_ofList, List.head?_cons, Option.some.injEq, List.tail_cons]
    rw [dropLeading, apply_ite String.ofList]

/-- What the joined styles leave in a text, and what they do to a text in their style. -/
theorem joined_settled (sep other : Char) (hs : (sep == other || isBlank sep) = false)
    (ho : Text.spared [(other.toNat, other.toNat)] = true) (cs : List Char) :
    (∀ d ∈ joined sep other cs, isCapital d = false ∧ d ≠ other ∧ isBlank d = false) ∧
      String.ofList (joined sep other (joined sep other cs)) =
        behead sep (String.ofList (joined sep other cs)) := by
  have h := joined_joined hs ho cs
  refine ⟨fun d hd => ⟨isCapital_of_isSmall (h.small d hd), by simpa using h.apart d hd⟩, ?_⟩
  rw [h.joined_eq, ofList_dropLeading]

/-- The joined styles leave no capital ASCII letter, no blank and no joiner of the other style in a
text, the styles with capitals no separator at all. Respelling a text twice in a joined style takes
one more joiner off its head, if there is one; in a style with capitals it changes nothing more. -/
theorem respelled_twice (s : String) :
    (∀ c ∈ (snake s).toList, isCapital c = false ∧ c ≠ '-' ∧ isBlank c = false) ∧
    snake (snake s) = behead '_' (snake s) ∧
    (∀ c ∈ (kebab s).toList, isCapital c = false ∧ c ≠ '_' ∧ isBlank c = false) ∧
    kebab (kebab s) = behead '-' (kebab s) ∧
    (∀ c ∈ (camel s).toList, c ≠ '-' ∧ c ≠ '_' ∧ isBlank c = false) ∧
    camel (camel s) = camel s ∧
    (∀ c ∈ (pascal s).toList, c ≠ '-' ∧ c ≠ '_' ∧ isBlank c = false) ∧
    pascal (pascal s) = pascal s := by
  have hsnake := joined_settled '_' '-' (by decide) (by decide +kernel) s.toList
  have hkebab := joined_settled '-' '_' (by decide) (by decide +kernel) s.toList
  have hcamel := headForm_lower.settled s.toList
  have hpascal := headForm_upperChar.settled s.toList
  simp only [← camelChars_eq_headed, isSeparator_eq_false] at hcamel
  simp only [← pascalChars_eq_headed, isSeparator_eq_false] at hpascal
  simp only [snake, kebab, camel, pascal, String.toList_ofList, String.ofList_inj]
  exact ⟨hsnake.1, hsnake.2, hkebab.1, hkebab.2, hcamel.1, hcamel.2, hpascal.1, hpascal.2⟩

theorem respelled_twice_street :
    'ς' ∈ (snake "_-ΟΔΟΣ ßA").toList ∧ isCapital 'ς' = false ∧ isBlank 'ς' = false ∧
    snake "_-ΟΔΟΣ ßA" = "_οδος_ß_a" ∧ snake (snake "_-ΟΔΟΣ ßA") = "οδος_ß_a" ∧
    '-' ∈ (kebab "_-ΟΔΟΣ ßA").toList ∧ '-' ≠ '_' ∧
    kebab (kebab "_-ΟΔΟΣ ßA") = "οδος-ß-a" ∧
    'Σ' ∈ (camel "_-ΟΔΟΣ ßA").toList ∧ 'Σ' ≠ '-' ∧ camel (camel "_-ΟΔΟΣ ßA") = "οΔΟΣSSA" ∧
    'S' ∈ (pascal "_-ΟΔΟΣ ßA").toList ∧ 'S' ≠ '_' ∧ pascal (pascal "_-ΟΔΟΣ ßA") = "ΟΔΟΣSSA" := by
  obtain ⟨hsnake, hsnake', hkebab, hkebab', hcamel, hcamel', hpascal, hpascal'⟩ :=
    respelled_twice "_-ΟΔΟΣ ßA"
  have hs : 'ς' ∈ (snake "_-ΟΔΟΣ ßA").toList := by decide +kernel
  have hk : '-' ∈ (kebab "_-ΟΔΟΣ ßA").toList := by decide +kernel
  have hc : 'Σ' ∈ (camel "_-ΟΔΟΣ ßA").toList := by decide +kernel
  have hp : 'S' ∈ (pascal "_-ΟΔΟΣ ßA").toList := by decide +kernel
  refine ⟨hs, (hsnake _ hs).1, (hsnake _ hs).2.2, ?_, ?_, hk, (hkebab _ hk).2.1, ?_, hc,
    (hcamel _ hc).1, ?_, hp, (hpascal _ hp).2.1, ?_⟩
  · decide +kernel
  · rw [hsnake']
    decide +kernel
  · rw [hkebab']
    decide +kernel
  · rw [hcamel']
    decide +kernel
  · rw [hpascal']
    decide +kernel

end Scaffold.Name
