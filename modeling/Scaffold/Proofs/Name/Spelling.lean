import Mathlib.Tactic.MkIffOfInductiveProp
import Scaffold.Proofs.Name.Style

/-! # The spellings of an identifier

Of an identifier each style makes a text of word characters again. What may be lost is its start:
the style with underscores drops one underscore there and the styles with capitals drop all of
them, so what then stands first may be a digit, or nothing at all.
-/

namespace Scaffold

namespace Text

variable {c : Char} {cs : List Char}

theorem forall_ascii (P : Char → Prop) (h : ∀ i : Fin 128, P (Char.ofNat i)) (hc : c.toNat < 128) :
    P c := by
  have := h ⟨c.toNat, hc⟩
  rwa [Char.ofNat_toNat] at this

theorem lowerChar_of_ascii (h : c.toNat < 128) : lowerChar c = [c.toLower] := by
  by_cases hl : 0x41 ≤ c.toNat ∧ c.toNat < 0x41 + 26
  · have hall : ∀ i : Fin 26, lowerChar (Char.ofNat (0x41 + i)) =
        [(Char.ofNat (0x41 + i)).toLower] := by decide +kernel
    obtain ⟨i, rfl⟩ := exists_eq_ofNat hl.1 hl.2
    exact hall i
  · have hsame := forall_ascii
      (fun c => ¬ (0x41 ≤ c.toNat ∧ c.toNat < 0x41 + 26) → c.toLower = c) (by decide +kernel) h
    rw [hsame hl]
    exact isSmall_of_lt (by omega)

theorem upperChar_of_ascii (h : c.toNat < 128) : upperChar c = [c.toUpper] := by
  by_cases hl : 0x61 ≤ c.toNat ∧ c.toNat < 0x61 + 26
  · have hall : ∀ i : Fin 26, upperChar (Char.ofNat (0x61 + i)) =
        [(Char.ofNat (0x61 + i)).toUpper] := by decide +kernel
    obtain ⟨i, rfl⟩ := exists_eq_ofNat hl.1 hl.2
    exact hall i
  · have hsame := forall_ascii
      (fun c => ¬ (0x61 ≤ c.toNat ∧ c.toNat < 0x61 + 26) → c.toUpper = c) (by decide +kernel) h
    rw [hsame hl]
    exact upperChar_of_not_small h hl

theorem titleChar_of_ascii (h : c.toNat < 128) : titleChar c = [c.toUpper] := by
  have hexceptions : titleExceptions.lookup c.toNat = none := by
    have hhigh : ∀ e ∈ titleExceptions, 128 ≤ e.1 := by decide +kernel
    rw [List.lookup_eq_none_iff]
    intro e he
    have := hhigh e he
    simp only [bne_iff_ne]
    omega
  have hfixed : titleFixed.has c = false := by
    have hhigh : ∀ b ∈ titleFixed, 128 ≤ b.1 := by decide +kernel
    rw [← Bool.not_eq_true, CharClass.has_iff]
    rintro ⟨b, hb, hl, -⟩
    have := hhigh b hb
    omega
  rw [titleChar, hexceptions, hfixed, upperChar_of_ascii h]
  rfl

theorem lowerFrom_of_ascii {before : Bool} (h : ∀ c ∈ cs, c.toNat < 128) :
    lowerFrom before cs = cs.map Char.toLower := by
  induction cs generalizing before with
  | nil => rfl
  | cons c cs ih =>
    obtain ⟨hc, hcs⟩ := List.forall_mem_cons.mp h
    have hs : c ≠ 'Σ' := by
      rintro rfl
      exact absurd hc (by decide)
    rw [lowerFrom, if_neg hs, lowerChar_of_ascii hc, ih hcs]
    rfl

end Text

namespace Name

variable {c d : Char} {cs : List Char}

theorem closed_isWordChar : Closed isWordChar where
  ascii _ h := lt_of_isWordChar h
  word _ h := h

theorem forall_wordChar (P : Char → Prop)
    (h : ∀ i : Fin 128, isWordChar (Char.ofNat i) = true → P (Char.ofNat i))
    (hc : isWordChar c = true) : P c :=
  Text.forall_ascii (fun c => isWordChar c = true → P c) h (lt_of_isWordChar hc) hc

theorem isWordStart_eq (h : isWordChar c = true) : isWordStart c = !c.isDigit :=
  forall_wordChar (fun c => isWordStart c = !c.isDigit) (by decide +kernel) h

theorem isBlank_of_isWordChar (h : isWordChar c = true) : Text.isBlank c = false :=
  forall_wordChar (fun c => Text.isBlank c = false) (by decide +kernel) h

theorem ne_hyphen_of_isWordChar (h : isWordChar c = true) : c ≠ '-' := by
  rintro rfl
  exact absurd h (by decide)

theorem isSeparator_of_isWordChar (h : isWordChar c = true) : isSeparator c = (c == '_') := by
  simp [isSeparator, isBlank_of_isWordChar h, ne_hyphen_of_isWordChar h]

/-- What changing the case of a character does to it, and what it does not do. -/
@[mk_iff]
structure Cased (c : Char) : Prop where
  toLower_toLower : c.toLower.toLower = c.toLower
  toLower_toUpper : c.toUpper.toLower = c.toLower
  toUpper_toUpper : c.toUpper.toUpper = c.toUpper
  toLower_of_not_isCapital : isCapital c = false → c.toLower = c
  toUpper_ne_underscore : c ≠ '_' → c.toUpper ≠ '_'
  isWordStart_toLower : isWordStart c.toLower = isWordStart c
  isWordStart_toUpper : isWordStart c.toUpper = isWordStart c
  isWordChar_toUpper : isWordChar c.toUpper = true

instance (c : Char) : Decidable (Cased c) := decidable_of_iff _ (cased_iff c).symm

theorem cased (h : isWordChar c = true) : Cased c := forall_wordChar Cased (by decide +kernel) h

theorem isIdentifier_of_isWordChar (h : ∀ d ∈ cs, isWordChar d = true) :
    isIdentifier cs = cs.head?.any isWordStart := by
  cases cs with
  | nil => rfl
  | cons c t =>
    have ht : t.all isWordChar = true :=
      List.all_eq_true.mpr fun d hd => h d (List.mem_cons_of_mem c hd)
    simp [isIdentifier, matchesB, ht]

/-! ### Underscores at the head -/

def bare (cs : List Char) : List Char := cs.dropWhile (· == '_')

theorem mem_of_mem_bare (h : d ∈ bare cs) : d ∈ cs := (List.dropWhile_sublist _).mem h

theorem bare_underscore : bare ('_' :: cs) = bare cs := rfl

theorem bare_of_ne (h : c ≠ '_') : bare (c :: cs) = c :: cs := by
  simp [bare, h]

theorem ne_underscore_of_bare (h : (bare cs).head? = some c) : c ≠ '_' := by
  rintro rfl
  have := List.head?_dropWhile_not (· == '_') cs
  simp_all [bare]

theorem bare_dropLeading (cs : List Char) : bare (dropLeading '_' cs) = bare cs := by
  cases cs with
  | nil => rfl
  | cons c cs =>
    by_cases hc : c = '_'
    · subst hc
      rfl
    · rw [dropLeading, if_neg hc]

/-! ### Words joined by underscores -/

theorem collapse_of_forall {isSep : Char → Bool} {sep : Char} {inRun : Bool}
    (h : ∀ c ∈ cs, isSep c = false) : collapse isSep sep inRun cs = cs := by
  induction cs generalizing inRun with
  | nil => rfl
  | cons c cs ih =>
    obtain ⟨hc, hcs⟩ := List.forall_mem_cons.mp h
    simp [collapse, hc, ih hcs]

/-- A name in small letters with an underscore before each letter that was a capital. -/
def spread (cs : List Char) : List Char :=
  cs.flatMap fun c => if isCapital c then ['_', c.toLower] else [c]

theorem spread_cons :
    spread (c :: cs) = (if isCapital c then ['_', c.toLower] else [c]) ++ spread cs := rfl

theorem map_toLower_markCapitals (h : ∀ c ∈ cs, isWordChar c = true) :
    (markCapitals '_' cs).map Char.toLower = spread cs := by
  induction cs with
  | nil => rfl
  | cons c cs ih =>
    obtain ⟨hc, hcs⟩ := List.forall_mem_cons.mp h
    rw [spread_cons, ← ih hcs, markCapitals, List.flatMap_cons, List.map_append, ← markCapitals]
    by_cases hcap : isCapital c = true
    · rw [if_pos hcap, if_pos hcap]
      rfl
    · rw [if_neg hcap, if_neg hcap, List.map_singleton,
        (cased hc).toLower_of_not_isCapital (Bool.not_eq_true _ ▸ hcap)]

theorem snakeChars_of_isWordChar (h : ∀ c ∈ cs, isWordChar c = true) :
    snakeChars cs = dropLeading '_' (spread cs) := by
  have hmarked : ∀ c ∈ markCapitals '_' cs, isWordChar c = true := by
    intro c hc
    rcases mem_markCapitals hc with rfl | hc
    · decide
    · exact h c hc
  have hjoined : collapse (fun c => c == '-' || Text.isBlank c) '_' false (markCapitals '_' cs) =
      markCapitals '_' cs := by
    apply collapse_of_forall
    intro c hc
    simp [isBlank_of_isWordChar (hmarked c hc), ne_hyphen_of_isWordChar (hmarked c hc)]
  rw [snakeChars, joined, hjoined, Text.lower,
    Text.lowerFrom_of_ascii fun c hc => lt_of_isWordChar (hmarked c hc),
    map_toLower_markCapitals h]

theorem head?_spread (cs : List Char) :
    (spread cs).head?.any isWordStart = cs.head?.any isWordStart := by
  cases cs with
  | nil => rfl
  | cons c cs =>
    rw [spread_cons]
    by_cases hc : isCapital c = true
    · have hl : isLetter c = true := by
        unfold isCapital at hc
        simp [isLetter, hc]
      simp [hc, isWordStart, hl]
    · simp [hc]

/-- The spelling with underscores of an identifier is one unless the identifier starts with an
underscore and is none without it. -/
theorem isIdentifier_snakeChars (h : isIdentifier cs = true) :
    isIdentifier (snakeChars cs) = isIdentifier (dropLeading '_' cs) := by
  have hword : ∀ c ∈ cs, isWordChar c = true := fun c => isWordChar_of_mem h
  have hsnake : ∀ c ∈ snakeChars cs, isWordChar c = true := fun c =>
    closed_isWordChar.joined (by decide) hword
  have hdropped : ∀ c ∈ dropLeading '_' cs, isWordChar c = true := fun c hc =>
    hword c (mem_of_mem_dropLeading hc)
  rw [isIdentifier_of_isWordChar hsnake, isIdentifier_of_isWordChar hdropped,
    snakeChars_of_isWordChar hword]
  obtain ⟨c, t, rfl, hc, -⟩ := isIdentifier_iff.mp h
  by_cases hu : c = '_'
  · subst hu
    exact head?_spread t
  · have hl : isWordStart c.toLower = true := by
      rw [(cased (hword c List.mem_cons_self)).isWordStart_toLower, hc]
    rw [spread_cons]
    by_cases hcap : isCapital c = true
    · simp [hcap, dropLeading, hu, hc, hl]
    · simp [hcap, dropLeading, hu, hc]

/-! ### Names that keep their words -/

theorem toLower_underscore : '_'.toLower = '_' := by decide

theorem toLower_of_mem_spread (h : ∀ c ∈ cs, isWordChar c = true) (hd : d ∈ spread cs) :
    d.toLower = d := by
  obtain ⟨c, hc, hd⟩ := List.mem_flatMap.mp hd
  split at hd
  · rcases List.mem_cons.mp hd with rfl | hd
    · exact toLower_underscore
    · rw [List.mem_singleton.mp hd, (cased (h c hc)).toLower_toLower]
  · rename_i hcap
    rw [List.mem_singleton.mp hd]
    exact (cased (h c hc)).toLower_of_not_isCapital (Bool.not_eq_true _ ▸ hcap)

theorem length_spread (cs : List Char) : (spread cs).length = cs.length + cs.countP isCapital := by
  induction cs with
  | nil => rfl
  | cons c cs ih =>
    rw [spread_cons, List.length_append, ih, List.length_cons, List.countP_cons]
    split <;> simp <;> omega

theorem map_toLower_eq_spread (h : ∀ c ∈ cs, isWordChar c = true) :
    cs.map Char.toLower = spread cs ↔ cs.all (!isCapital ·) = true := by
  rw [List.all_eq_true]
  constructor
  · intro he c hc
    have hlength := congrArg List.length he
    rw [List.length_map, length_spread] at hlength
    have hnone := List.countP_eq_zero.mp (by omega : cs.countP isCapital = 0) c hc
    simpa using hnone
  · intro hall
    rw [spread, ← List.flatMap_singleton' (cs.map _), List.flatMap_map]
    refine List.flatMap_congr fun c hc => ?_
    have hcap : isCapital c = false := by simpa using hall c hc
    simp [hcap, (cased (h c hc)).toLower_of_not_isCapital hcap]

/-- An underscore in front takes the place of the one that the first capital brings. -/
theorem underscore_map_toLower_eq_spread (h : ∀ c ∈ cs, isWordChar c = true) :
    '_' :: cs.map Char.toLower = spread cs ↔
      (bare cs).head?.any isCapital = true ∧ (bare cs).tail.all (!isCapital ·) = true := by
  induction cs with
  | nil => simp [spread, bare]
  | cons c cs ih =>
    obtain ⟨hc, hcs⟩ := List.forall_mem_cons.mp h
    by_cases hu : c = '_'
    · subst hu
      rw [spread_cons, if_neg (by decide), bare_underscore, ← ih hcs, List.map_cons,
        toLower_underscore]
      simp
    · rw [bare_of_ne hu, List.tail_cons, ← map_toLower_eq_spread hcs, spread_cons]
      by_cases hcap : isCapital c = true
      · simp [hcap]
      · simp [hcap, Ne.symm hu]

/-- Whether a name keeps its words when it is spelled with underscores: it has no capital but that
of its first letter, and has one there if underscores stand before it. -/
def keepsWords (cs : List Char) : Bool :=
  (bare cs).head?.any (fun c => cs.head? != some '_' || isCapital c) &&
    (bare cs).tail.all (!isCapital ·)

/-- An identifier differs from its spelling with underscores in more than the case of letters unless
it keeps its words. -/
theorem map_toLower_snakeChars (h : isIdentifier cs = true) :
    cs.map Char.toLower = (snakeChars cs).map Char.toLower ↔ keepsWords cs = true := by
  have hword : ∀ c ∈ cs, isWordChar c = true := fun c => isWordChar_of_mem h
  have hsmall : (snakeChars cs).map Char.toLower = dropLeading '_' (spread cs) := by
    rw [snakeChars_of_isWordChar hword]
    refine (List.map_congr_left fun d hd => ?_).trans (List.map_id _)
    exact toLower_of_mem_spread hword (mem_of_mem_dropLeading hd)
  obtain ⟨c, t, rfl, -, -⟩ := isIdentifier_iff.mp h
  obtain ⟨hc, ht⟩ := List.forall_mem_cons.mp hword
  rw [hsmall, keepsWords, Bool.and_eq_true, spread_cons]
  by_cases hu : c = '_'
  · subst hu
    have hcap : isCapital '_' = false := by decide
    have hspread := underscore_map_toLower_eq_spread ht
    simpa [dropLeading, hcap, bare_underscore, toLower_underscore] using hspread
  · rw [bare_of_ne hu, List.tail_cons, ← map_toLower_eq_spread ht]
    by_cases hcap : isCapital c = true
    · simp [hcap, dropLeading]
    · simp [hcap, dropLeading, hu, (cased hc).toLower_of_not_isCapital (Bool.not_eq_true _ ▸ hcap)]

/-! ### Words run together -/

theorem runTogether_of_ne {head : Bool} (hw : isWordChar c = true) (hc : c ≠ '_') :
    runTogether head (c :: cs) = (if head then c.toUpper else c) :: runTogether false cs := by
  have hs : isSeparator c = false := by simp [isSeparator_of_isWordChar hw, hc]
  rw [runTogether, hs, Text.upperChar_of_ascii (lt_of_isWordChar hw)]
  cases head <;> rfl

theorem runTogether_true (h : ∀ d ∈ cs, isWordChar d = true) :
    runTogether true cs =
      match bare cs with
      | [] => []
      | c :: t => c.toUpper :: runTogether false t := by
  induction cs with
  | nil => rfl
  | cons c cs ih =>
    obtain ⟨hc, hcs⟩ := List.forall_mem_cons.mp h
    by_cases hu : c = '_'
    · subst hu
      exact ih hcs
    · rw [bare_of_ne hu, runTogether_of_ne hc hu]
      rfl

/-- To respell the first letter of what runs together, it does not matter whether that is a capital
already. -/
theorem respell_runTogether {f : Char → List Char} {g : Char → Char}
    (hf : ∀ c, isWordChar c = true → f c = [g c])
    (hg : ∀ c, isWordChar c = true → g c.toUpper = g c)
    (h : ∀ d ∈ cs, isWordChar d = true) (head : Bool) :
    (match runTogether head cs with
      | [] => []
      | c :: rest => f c ++ rest) = (runTogether true cs).modifyHead g := by
  induction cs generalizing head with
  | nil => rfl
  | cons c cs ih =>
    obtain ⟨hc, hcs⟩ := List.forall_mem_cons.mp h
    by_cases hu : c = '_'
    · subst hu
      exact ih hcs true
    · have hupper : f c.toUpper = [g c] :=
        (hf _ (cased hc).isWordChar_toUpper).trans (by rw [hg c hc])
      rw [runTogether_of_ne hc hu, runTogether_of_ne hc hu]
      cases head <;> simp [hf c hc, hg c hc, hupper]

theorem camelChars_eq (h : ∀ d ∈ cs, isWordChar d = true) :
    camelChars cs = (runTogether true cs).modifyHead Char.toLower :=
  respell_runTogether
    (fun _ hc => Text.lowerFrom_of_ascii (by simpa using lt_of_isWordChar hc))
    (fun _ hc => (cased hc).toLower_toUpper) h false

theorem pascalChars_eq (h : ∀ d ∈ cs, isWordChar d = true) :
    pascalChars cs = (runTogether true cs).modifyHead Char.toUpper :=
  respell_runTogether
    (fun _ hc => Text.upperChar_of_ascii (lt_of_isWordChar hc))
    (fun _ hc => (cased hc).toUpper_toUpper) h false

theorem head?_modifyHead_runTogether {g : Char → Char}
    (hg : ∀ c, isWordChar c = true → g c.toUpper = g c) (h : ∀ d ∈ cs, isWordChar d = true) :
    ((runTogether true cs).modifyHead g).head? = (bare cs).head?.map g := by
  rw [runTogether_true h]
  cases hb : bare cs with
  | nil => rfl
  | cons c t => exact congrArg some (hg c (h c (mem_of_mem_bare (by simp [hb]))))

theorem head?_camelChars (h : ∀ d ∈ cs, isWordChar d = true) :
    (camelChars cs).head? = (bare cs).head?.map Char.toLower := by
  rw [camelChars_eq h, head?_modifyHead_runTogether (fun _ hc => (cased hc).toLower_toUpper) h]

theorem head?_pascalChars (h : ∀ d ∈ cs, isWordChar d = true) :
    (pascalChars cs).head? = (bare cs).head?.map Char.toUpper := by
  rw [pascalChars_eq h, head?_modifyHead_runTogether (fun _ hc => (cased hc).toUpper_toUpper) h]

theorem any_isWordStart_map {f : Char → Char}
    (hf : ∀ c, isWordChar c = true → isWordStart (f c) = isWordStart c)
    (h : ∀ d ∈ cs, isWordChar d = true) :
    (cs.head?.map f).any isWordStart = cs.head?.any isWordStart := by
  cases cs with
  | nil => rfl
  | cons c t => exact hf c (h c List.mem_cons_self)

/-- The spellings with capitals of an identifier are identifiers if it is one without the
underscores at its head. -/
theorem isIdentifier_camelChars (h : ∀ d ∈ cs, isWordChar d = true) :
    isIdentifier (camelChars cs) = isIdentifier (bare cs) := by
  have hbare : ∀ d ∈ bare cs, isWordChar d = true := fun d hd => h d (mem_of_mem_bare hd)
  rw [isIdentifier_of_isWordChar fun d => closed_isWordChar.camelChars h,
    isIdentifier_of_isWordChar hbare, head?_camelChars h,
    any_isWordStart_map (fun _ hc => (cased hc).isWordStart_toLower) hbare]

theorem isIdentifier_pascalChars (h : ∀ d ∈ cs, isWordChar d = true) :
    isIdentifier (pascalChars cs) = isIdentifier (bare cs) := by
  have hbare : ∀ d ∈ bare cs, isWordChar d = true := fun d hd => h d (mem_of_mem_bare hd)
  rw [isIdentifier_of_isWordChar fun d => closed_isWordChar.pascalChars h,
    isIdentifier_of_isWordChar hbare, head?_pascalChars h,
    any_isWordStart_map (fun _ hc => (cased hc).isWordStart_toUpper) hbare]

end Name

end Scaffold
