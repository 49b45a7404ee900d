import Scaffold.Proofs.Name.Spelling

/-! # Names respelled twice

The spellings with capitals depend on the words of a name only, and the other spellings keep the
words apart. So an identifier that has been respelled once is spelled with capitals like the
identifier itself. The two joined spellings differ in the joiner, unless underscores stand together.
-/

namespace Scaffold.Name

variable {c d : Char} {cs : List Char} {name : String}

/-! ### Words run together -/

theorem runTogether_underscore (head : Bool) (cs : List Char) :
    runTogether head ('_' :: cs) = runTogether true cs := rfl

theorem not_mem_runTogether (h : ∀ d ∈ cs, isWordChar d = true) (head : Bool) :
    '_' ∉ runTogether head cs := by
  induction cs generalizing head with
  | nil => simp [runTogether]
  | cons c cs ih =>
    obtain ⟨hc, hcs⟩ := List.forall_mem_cons.mp h
    by_cases hu : c = '_'
    · subst hu
      exact ih hcs true
    · rw [runTogether_of_ne hc hu, List.mem_cons, not_or]
      refine ⟨?_, ih hcs false⟩
      cases head with
      | false => exact Ne.symm hu
      | true => exact ((cased hc).toUpper_ne_underscore hu).symm

theorem runTogether_of_not_mem (h : ∀ d ∈ cs, isWordChar d = true) (hu : '_' ∉ cs) :
    runTogether false cs = cs := by
  induction cs with
  | nil => rfl
  | cons c cs ih =>
    obtain ⟨hc, hcs⟩ := List.forall_mem_cons.mp h
    rw [List.mem_cons, not_or] at hu
    rw [runTogether_of_ne hc (Ne.symm hu.1), ih hcs hu.2]
    rfl

theorem runTogether_modifyHead {f : Char → Char} (h : ∀ d ∈ cs, isWordChar d = true)
    (hf : ∀ c, isWordChar c = true → c ≠ '_' →
      isWordChar (f c) = true ∧ f c ≠ '_' ∧ (f c).toUpper = c.toUpper) :
    runTogether true ((runTogether true cs).modifyHead f) = runTogether true cs := by
  have ht := runTogether_true h
  cases hb : bare cs with
  | nil =>
    rw [hb] at ht
    rw [ht]
    rfl
  | cons c t =>
    have hword : ∀ d ∈ c :: t, isWordChar d = true := fun d hd =>
      h d (mem_of_mem_bare (hb ▸ hd))
    obtain ⟨hc, hrest⟩ := List.forall_mem_cons.mp hword
    have hne : c ≠ '_' := ne_underscore_of_bare (by rw [hb]; rfl)
    obtain ⟨hw, hu, hcase⟩ := hf c.toUpper (cased hc).isWordChar_toUpper
      ((cased hc).toUpper_ne_underscore hne)
    rw [hb] at ht
    rw [ht, List.modifyHead_cons, runTogether_of_ne hw hu, if_pos rfl, hcase,
      (cased hc).toUpper_toUpper, runTogether_of_not_mem
        (fun d => closed_isWordChar.runTogether hrest) (not_mem_runTogether hrest false)]

/-! ### Detours -/

theorem toLower_capital (hw : isWordChar c = true) (hc : isCapital c = true) :
    isWordChar c.toLower = true ∧ c.toLower ≠ '_' ∧ c.toLower.toUpper = c ∧ c.toUpper = c ∧
      c ≠ '_' :=
  forall_wordChar (fun c => isCapital c = true → isWordChar c.toLower = true ∧ c.toLower ≠ '_' ∧
    c.toLower.toUpper = c ∧ c.toUpper = c ∧ c ≠ '_') (by decide +kernel) hw hc

/-- The underscore before a letter that was a capital makes it one again. -/
theorem runTogether_spread (h : ∀ d ∈ cs, isWordChar d = true) (head : Bool) :
    runTogether head (spread cs) = runTogether head cs := by
  induction cs generalizing head with
  | nil => rfl
  | cons c cs ih =>
    obtain ⟨hc, hcs⟩ := List.forall_mem_cons.mp h
    rw [spread_cons]
    by_cases hcap : isCapital c = true
    · obtain ⟨hw, hl, hback, hup, hu⟩ := toLower_capital hc hcap
      rw [if_pos hcap, List.cons_append, List.singleton_append, runTogether_underscore,
        runTogether_of_ne hw hl, runTogether_of_ne hc hu, ih hcs, if_pos rfl, hback, hup, ite_self]
    · rw [if_neg hcap, List.singleton_append]
      by_cases hu : c = '_'
      · subst hu
        exact ih hcs true
      · rw [runTogether_of_ne hc hu, runTogether_of_ne hc hu, ih hcs]

theorem runTogether_dropLeading (cs : List Char) :
    runTogether true (dropLeading '_' cs) = runTogether true cs := by
  cases cs with
  | nil => rfl
  | cons c cs =>
    by_cases hc : c = '_'
    · subst hc
      rfl
    · rw [dropLeading, if_neg hc]

theorem runTogether_snakeChars (h : ∀ d ∈ cs, isWordChar d = true) :
    runTogether true (snakeChars cs) = runTogether true cs := by
  rw [snakeChars_of_isWordChar h, runTogether_dropLeading, runTogether_spread h]

theorem toUpper_toLower (h : isWordChar c = true) : c.toLower.toUpper = c.toUpper :=
  forall_wordChar (fun c => c.toLower.toUpper = c.toUpper) (by decide +kernel) h

theorem toLower_ne_underscore (h : isWordChar c = true) (hc : c ≠ '_') :
    isWordChar c.toLower = true ∧ c.toLower ≠ '_' :=
  forall_wordChar (fun c => c ≠ '_' → isWordChar c.toLower = true ∧ c.toLower ≠ '_')
    (by decide +kernel) h hc

theorem runTogether_camelChars (h : ∀ d ∈ cs, isWordChar d = true) :
    runTogether true (camelChars cs) = runTogether true cs := by
  rw [camelChars_eq h]
  refine runTogether_modifyHead h fun c hc hu => ?_
  obtain ⟨hw, hl⟩ := toLower_ne_underscore hc hu
  exact ⟨hw, hl, toUpper_toLower hc⟩

theorem runTogether_pascalChars (h : ∀ d ∈ cs, isWordChar d = true) :
    runTogether true (pascalChars cs) = runTogether true cs := by
  rw [pascalChars_eq h]
  exact runTogether_modifyHead h fun c hc hu =>
    ⟨(cased hc).isWordChar_toUpper, (cased hc).toUpper_ne_underscore hu, (cased hc).toUpper_toUpper⟩

/-! ### The two joiners -/

def hyphen (c : Char) : Char := if c = '_' then '-' else c

theorem replace_eq_map (cs : List Char) : Text.replace '_' ['-'] cs = cs.map hyphen := by
  rw [Text.replace, ← List.flatMap_singleton' (cs.map _), List.flatMap_map]
  refine List.flatMap_congr fun c _ => ?_
  rw [hyphen]
  split <;> rfl

theorem collapse_cons {isSep : Char → Bool} {sep : Char} {inRun : Bool} (hc : isSep c = false) :
    collapse isSep sep inRun (c :: cs) = c :: collapse isSep sep false cs := by
  simp [collapse, hc]

/-- Underscores that stand alone become one hyphen each. `inRun` says that an underscore stands
before the name, which then starts with another character. -/
theorem collapse_markCapitals {inRun : Bool} (h : ∀ d ∈ cs, isWordChar d = true)
    (hu : ¬ ['_', '_'] <:+: cs) (hr : inRun = true → cs.head? ≠ some '_') :
    collapse (fun c => c == '_' || Text.isBlank c) '-' inRun (markCapitals '-' cs) =
      (markCapitals '-' cs).map hyphen := by
  induction cs generalizing inRun with
  | nil => rfl
  | cons c cs ih =>
    obtain ⟨hc, hcs⟩ := List.forall_mem_cons.mp h
    have hrest : ¬ ['_', '_'] <:+: cs := fun hi => hu (hi.trans (List.suffix_cons c cs).isInfix)
    have hfree := @ih false hcs hrest (by rintro ⟨⟩)
    have hmark : markCapitals '-' (c :: cs) =
        (if isCapital c then ['-', c] else [c]) ++ markCapitals '-' cs := rfl
    have hother {d : Char} (hd : d ≠ '_') (hb : Text.isBlank d = false) :
        (d == '_' || Text.isBlank d) = false := by simp [hd, hb]
    rw [hmark]
    by_cases hcap : isCapital c = true
    · obtain ⟨-, -, -, -, hne⟩ := toLower_capital hc hcap
      rw [if_pos hcap, List.cons_append, List.singleton_append,
        collapse_cons (hother (by decide) (by decide)),
        collapse_cons (hother hne (isBlank_of_isWordChar hc)), hfree]
      simp [hyphen, hne]
    rw [if_neg hcap, List.singleton_append]
    by_cases hne : c = '_'
    · subst hne
      have hin : inRun = false := by simpa using hr
      have hnext : cs.head? ≠ some '_' := by
        intro hh
        obtain ⟨t, rfl⟩ := List.head?_eq_some_iff.mp hh
        exact hu (List.prefix_append ['_', '_'] t).isInfix
      rw [hin, collapse, @ih true hcs hrest fun _ => hnext]
      rfl
    · rw [collapse_cons (hother hne (isBlank_of_isWordChar hc)), hfree]
      simp [hyphen, hne]

theorem map_toLower_hyphen (h : ∀ d ∈ cs, isWordChar d = true) :
    ((markCapitals '-' cs).map hyphen).map Char.toLower = (spread cs).map hyphen := by
  rw [markCapitals, spread, List.map_flatMap, List.map_flatMap, List.map_flatMap]
  refine List.flatMap_congr fun c hc => ?_
  by_cases hcap : isCapital c = true
  · obtain ⟨-, hl, -, -, hu⟩ := toLower_capital (h c hc) hcap
    have hhyphen : '-'.toLower = '-' := by decide
    simp [hcap, hyphen, hl, hu, hhyphen]
  · by_cases hu : c = '_'
    · subst hu
      decide
    · simp [hcap, hyphen, hu, (cased (h c hc)).toLower_of_not_isCapital (Bool.not_eq_true _ ▸ hcap)]

theorem dropLeading_map_hyphen (h : '-' ∉ cs) :
    dropLeading '-' (cs.map hyphen) = (dropLeading '_' cs).map hyphen := by
  cases cs with
  | nil => rfl
  | cons c cs =>
    rw [List.mem_cons, not_or] at h
    rw [List.map_cons, dropLeading, dropLeading, hyphen]
    by_cases hc : c = '_'
    · rw [if_pos hc, if_pos rfl, if_pos hc]
    · rw [if_neg hc, if_neg (Ne.symm h.1), if_neg hc, List.map_cons, hyphen, if_neg hc]

theorem kebabChars_eq (h : ∀ d ∈ cs, isWordChar d = true) (hu : ¬ ['_', '_'] <:+: cs) :
    kebabChars cs = Text.replace '_' ['-'] (snakeChars cs) := by
  have hascii : ∀ c ∈ (markCapitals '-' cs).map hyphen, c.toNat < 128 := by
    intro c hc
    obtain ⟨d, hd, rfl⟩ := List.mem_map.mp hc
    rw [hyphen]
    split
    · decide
    · rcases mem_markCapitals hd with rfl | hd
      · decide
      · exact lt_of_isWordChar (h d hd)
  have hplain : '-' ∉ spread cs := by
    intro hm
    obtain ⟨c, hc, hm⟩ := List.mem_flatMap.mp hm
    have hw : ∀ d ∈ if isCapital c then ['_', c.toLower] else [c], isWordChar d = true := by
      split
      · rename_i hcap
        simpa using ⟨by decide, (toLower_capital (h c hc) hcap).1⟩
      · simpa using h c hc
    exact ne_hyphen_of_isWordChar (hw _ hm) rfl
  rw [kebabChars, joined, collapse_markCapitals h hu (by rintro ⟨⟩), Text.lower,
    Text.lowerFrom_of_ascii hascii, map_toLower_hyphen h, dropLeading_map_hyphen hplain,
    replace_eq_map, snakeChars_of_isWordChar h]

/-- An identifier that is respelled once has the spellings with capitals that it had before. Its
joined spellings differ in the joiner only, if no two underscores stand together in it. -/
theorem respelled_alike (h : isIdentifier name.toList = true) :
    pascal (snake name) = pascal name ∧ camel (snake name) = camel name ∧
      camel (pascal name) = camel name ∧ pascal (camel name) = pascal name ∧
      (¬ ['_', '_'] <:+: name.toList →
        kebab name = String.ofList (Text.replace '_' ['-'] (snake name).toList)) := by
  have hword : ∀ c ∈ name.toList, isWordChar c = true := fun c => isWordChar_of_mem h
  have hsnake : ∀ c ∈ snakeChars name.toList, isWordChar c = true := fun c =>
    closed_isWordChar.joined (by decide) hword
  have hcamel : ∀ c ∈ camelChars name.toList, isWordChar c = true := fun c =>
    closed_isWordChar.camelChars hword
  have hpascal : ∀ c ∈ pascalChars name.toList, isWordChar c = true := fun c =>
    closed_isWordChar.pascalChars hword
  simp only [pascal, snake, camel, kebab, String.toList_ofList]
  refine ⟨?_, ?_, ?_, ?_, fun hu => by rw [kebabChars_eq hword hu]⟩
  · rw [pascalChars_eq hsnake, runTogether_snakeChars hword, ← pascalChars_eq hword]
  · rw [camelChars_eq hsnake, runTogether_snakeChars hword, ← camelChars_eq hword]
  · rw [camelChars_eq hpascal, runTogether_pascalChars hword, ← camelChars_eq hword]
  · rw [pascalChars_eq hcamel, runTogether_camelChars hword, ← pascalChars_eq hword]

theorem respelled_alike_userID : isIdentifier "_userID_2".toList = true ∧
    pascal (snake "_userID_2") = "UserID2" ∧ camel (snake "_userID_2") = "userID2" ∧
    camel (pascal "_userID_2") = "userID2" ∧ pascal (camel "_userID_2") = "UserID2" ∧
    ¬ ['_', '_'] <:+: "_userID_2".toList ∧ kebab "_userID_2" = "user-i-d-2" := by
  have hi : isIdentifier "_userID_2".toList = true := by decide
  have hu : ¬ ['_', '_'] <:+: "_userID_2".toList := by decide +kernel
  obtain ⟨hpascal, hcamel, hcp, hpc, hkebab⟩ := respelled_alike hi
  have hp : pascal "_userID_2" = "UserID2" := by decide +kernel
  have hc : camel "_userID_2" = "userID2" := by decide +kernel
  have hs : snake "_userID_2" = "user_i_d_2" := by decide +kernel
  refine ⟨hi, hpascal.trans hp, hcamel.trans hc, hcp.trans hc, hpc.trans hp, hu, ?_⟩
  rw [hkebab hu, hs]
  decide +kernel

end Scaffold.Name
