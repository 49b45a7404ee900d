import Scaffold.Proofs.Name.Inflection

/-! # Names that lose their head

Which identifiers stay identifiers when the underscores at their head come off, one of them or all,
and whether what is left may start a longer name.
-/

namespace Scaffold.Name

/-- Whether a name is an identifier and stays one with an underscore less. -/
def isStatementName (cs : List Char) : Bool := isIdentifier (dropLeading '_' cs)

/-- Whether a name is an identifier and stays one without underscores at its head. -/
def isClassName (cs : List Char) : Bool := isIdentifier (bare cs)

/-- An identifier with two or more underscores at its head and no letter behind them. -/
def isHeadless (cs : List Char) : Bool :=
  isIdentifier cs && ['_', '_'].isPrefixOf cs && (bare cs).head?.all fun c => !isLetter c

theorem isIdentifier_underscore {cs : List Char} (h : isIdentifier cs = true) :
    isIdentifier ('_' :: cs) = true := by
  rw [isIdentifier_of_isWordChar]
  · simp [isWordStart]
  · intro d hd
    rcases List.mem_cons.mp hd with rfl | hd
    · decide
    · exact isWordChar_of_mem h hd

theorem isIdentifier_of_isStatementName {cs : List Char} (h : isStatementName cs = true) :
    isIdentifier cs = true := by
  cases cs with
  | nil => exact h
  | cons c cs =>
    by_cases hc : c = '_'
    · subst hc
      exact isIdentifier_underscore h
    · rwa [isStatementName, dropLeading, if_neg hc] at h

theorem isIdentifier_of_isClassName {cs : List Char} (h : isClassName cs = true) :
    isIdentifier cs = true := by
  induction cs with
  | nil => exact h
  | cons c cs ih =>
    by_cases hc : c = '_'
    · subst hc
      exact isIdentifier_underscore (ih h)
    · rwa [isClassName, bare_of_ne hc] at h

theorem isStatementName_of_isClassName {cs : List Char} (h : isClassName cs = true) :
    isStatementName cs = true := by
  apply isIdentifier_of_isClassName
  rwa [isClassName, bare_dropLeading]

theorem isClassName_eq {cs : List Char} (h : isIdentifier cs = true) :
    isClassName cs = (bare cs).head?.any isLetter := by
  have hword : ∀ d ∈ bare cs, isWordChar d = true := fun d hd =>
    isWordChar_of_mem h (mem_of_mem_bare hd)
  rw [isClassName, isIdentifier_of_isWordChar hword]
  cases hb : bare cs with
  | nil => rfl
  | cons c t =>
    have hc : c ≠ '_' := ne_underscore_of_bare (by rw [hb]; rfl)
    simp [isWordStart, hc]

theorem isHeadless_of_not_isClassName {cs : List Char} (h : isStatementName cs = true)
    (hc : isClassName cs = false) : isHeadless cs = true := by
  have hi := isIdentifier_of_isStatementName h
  have hhead : ∀ c ∈ (bare cs).head?, isLetter c = false := by
    intro c hm
    rw [isClassName_eq hi, Option.mem_def.mp hm] at hc
    exact hc
  -- with fewer than two underscores at the head the statement and the class read the same name
  have hunder : ['_', '_'] <+: cs := by
    match cs with
    | [] => cases h
    | c :: t =>
      by_cases hu : c = '_'
      · subst hu
        match t with
        | [] => cases h
        | d :: t =>
          by_cases hd : d = '_'
          · subst hd
            exact ⟨t, rfl⟩
          · have hsame : isClassName ('_' :: d :: t) = isStatementName ('_' :: d :: t) := by
              rw [isClassName, bare_underscore, bare_of_ne hd]
              rfl
            rw [hsame, h] at hc
            cases hc
      · rw [isClassName, bare_of_ne hu, hi] at hc
        cases hc
  simp only [isHeadless, hi, Bool.true_and, Bool.and_eq_true, List.isPrefixOf_iff_prefix,
    Option.all_eq_true, Bool.not_eq_true']
  exact ⟨hunder, hhead⟩

theorem isClassName_of_not_isHeadless {cs : List Char} (hh : isHeadless cs = false) :
    isClassName cs = isStatementName cs := by
  rw [Bool.eq_iff_iff]
  constructor
  · exact isStatementName_of_isClassName
  · intro h
    by_contra hc
    rw [isHeadless_of_not_isClassName h (Bool.not_eq_true _ ▸ hc)] at hh
    cases hh

theorem not_isClassName_of_isHeadless {cs : List Char} (h : isHeadless cs = true) :
    isClassName cs = false := by
  simp only [isHeadless, Bool.and_eq_true, Option.all_eq_true, Bool.not_eq_true'] at h
  rw [isClassName_eq h.1.1]
  cases hb : (bare cs).head? with
  | none => rfl
  | some c => exact h.2 c hb

/-! ### Names within names -/

/-- Whether a name without the underscores at its head may start a longer name. -/
def mayLead (cs : List Char) : Bool := (bare cs).isEmpty || isClassName cs

theorem mayLead_of_isClassName {cs : List Char} (h : isClassName cs = true) :
    mayLead cs = true := by
  simp [mayLead, h]

theorem isIdentifier_append {cs ds : List Char} (h : ∀ c ∈ cs, isWordChar c = true)
    (hd : isIdentifier ds = true) : isIdentifier (cs ++ ds) = (cs.isEmpty || isIdentifier cs) := by
  have hboth : ∀ c ∈ cs ++ ds, isWordChar c = true :=
    List.forall_mem_append.mpr ⟨h, fun c => isWordChar_of_mem hd⟩
  rw [isIdentifier_of_isWordChar hboth, isIdentifier_of_isWordChar h]
  cases cs with
  | nil => rwa [isIdentifier_of_isWordChar fun c => isWordChar_of_mem hd] at hd
  | cons c t => rfl

theorem isIdentifier_append_left {cs ds : List Char} (hc : isIdentifier cs = true)
    (h : ∀ d ∈ ds, isWordChar d = true) : isIdentifier (cs ++ ds) = true := by
  obtain ⟨c, t, rfl, hc, ht⟩ := isIdentifier_iff.mp hc
  exact isIdentifier_iff.mpr ⟨c, t ++ ds, rfl, hc, List.forall_mem_append.mpr ⟨ht, h⟩⟩

theorem isIdentifier_of_append {cs ds : List Char} (h : isIdentifier (cs ++ ds) = true)
    (hc : cs ≠ []) : isIdentifier cs = true := by
  obtain ⟨c, t, rfl⟩ := List.exists_cons_of_ne_nil hc
  obtain ⟨_, _, he, hstart, hrest⟩ := isIdentifier_iff.mp h
  cases he
  exact isIdentifier_iff.mpr ⟨c, t, rfl, hstart, (List.forall_mem_append.mp hrest).1⟩

theorem isEmpty_of_head? {as bs : List Char} {f : Char → Char} (h : as.head? = bs.head?.map f) :
    as.isEmpty = bs.isEmpty := by
  cases as <;> cases bs <;> simp_all

/-! ### Spellings -/

section Spellings

variable {name : String} (h : isIdentifier name.toList = true)
include h

theorem isIdentifier_snake :
    isIdentifier (snake name).toList = isStatementName name.toList := by
  rw [snake, String.toList_ofList]
  exact isIdentifier_snakeChars h

theorem isIdentifier_camel : isIdentifier (camel name).toList = isClassName name.toList := by
  rw [camel, String.toList_ofList]
  exact isIdentifier_camelChars fun _ => isWordChar_of_mem h

theorem isIdentifier_pascal : isIdentifier (pascal name).toList = isClassName name.toList := by
  rw [pascal, String.toList_ofList]
  exact isIdentifier_pascalChars fun _ => isWordChar_of_mem h

theorem isIdentifier_camel_append {ds : List Char} (hd : isIdentifier ds = true) :
    isIdentifier ((camel name).toList ++ ds) = mayLead name.toList := by
  have hword : ∀ c ∈ name.toList, isWordChar c = true := fun _ => isWordChar_of_mem h
  rw [camel, String.toList_ofList,
    isIdentifier_append (fun d => closed_isWordChar.camelChars hword) hd,
    isEmpty_of_head? (head?_camelChars hword), isIdentifier_camelChars hword]
  rfl

theorem isIdentifier_pascal_append {ds : List Char} (hd : isIdentifier ds = true) :
    isIdentifier ((pascal name).toList ++ ds) = mayLead name.toList := by
  have hword : ∀ c ∈ name.toList, isWordChar c = true := fun _ => isWordChar_of_mem h
  rw [pascal, String.toList_ofList,
    isIdentifier_append (fun d => closed_isWordChar.pascalChars hword) hd,
    isEmpty_of_head? (head?_pascalChars hword), isIdentifier_pascalChars hword]
  rfl

/-- A name with capitals may start a longer name only by being one. -/
theorem mayLead_of_pascal_ne_nil (hn : (pascal name).toList ≠ []) :
    mayLead name.toList = isClassName name.toList := by
  have hword : ∀ c ∈ name.toList, isWordChar c = true := fun _ => isWordChar_of_mem h
  have hempty := isEmpty_of_head? (head?_pascalChars hword)
  rw [pascal, String.toList_ofList] at hn
  rw [mayLead, ← hempty, List.isEmpty_eq_false_iff.mpr hn, Bool.false_or]

theorem isClassName_pascal : isClassName (pascal name).toList = isClassName name.toList := by
  rw [← isIdentifier_pascal h, isClassName]
  have hword : ∀ c ∈ name.toList, isWordChar c = true := fun _ => isWordChar_of_mem h
  have hhead := head?_pascalChars hword
  rw [pascal, String.toList_ofList]
  cases hp : pascalChars name.toList with
  | nil => rfl
  | cons c t =>
    rw [hp] at hhead
    obtain ⟨d, hd, rfl⟩ := Option.map_eq_some_iff.mp hhead.symm
    have hw := hword d (mem_of_mem_bare (List.mem_of_mem_head? hd))
    rw [bare_of_ne ((cased hw).toUpper_ne_underscore (ne_underscore_of_bare hd))]

end Spellings

/-! ### Singular and plural names -/

theorem irregulars_head : ∀ w ∈ irregulars, w.1.head? = w.2.head? ∧
    Text.capitalize w.1 = w.1.modifyHead Char.toUpper ∧
    Text.capitalize w.2 = w.2.modifyHead Char.toUpper := by
  have hwords : ∀ w ∈ irregulars, w.1.head? = w.2.head? ∧
      w.1.all isSmallWordChar = true ∧ w.2.all isSmallWordChar = true := by decide +kernel
  intro w hw
  obtain ⟨hhead, hplural, hsingular⟩ := hwords w hw
  exact ⟨hhead, capitalize_of_isSmallWordChar (List.all_eq_true.mp hplural),
    capitalize_of_isSmallWordChar (List.all_eq_true.mp hsingular)⟩

theorem head?_likeCase {model word : List Char} (hm : ∀ c ∈ model, isWordChar c = true)
    (hh : model.head?.map Char.toLower = word.head?)
    (hw : Text.capitalize word = word.modifyHead Char.toUpper) :
    (likeCase model word).head? = model.head? := by
  cases model with
  | nil => exact hh.symm
  | cons c t =>
    cases word with
    | nil => cases hh
    | cons d s =>
      cases hh
      have hc := hm c List.mem_cons_self
      rw [likeCase]
      split
      · rename_i hcap
        have hback := forall_wordChar (fun c => isCapital c = true → c.toLower.toUpper = c)
          (by decide +kernel) hc hcap
        rw [hw]
        exact congrArg some hback
      · rename_i hcap
        exact congrArg some ((cased hc).toLower_of_not_isCapital (Bool.not_eq_true _ ▸ hcap))

section Inflected

variable {cs : List Char} (h : ∀ c ∈ cs, isWordChar c = true)
include h

theorem head?_irregular {v w : List Char} (hv : v = Text.lower cs) (hh : v.head? = w.head?)
    (hw : Text.capitalize w = w.modifyHead Char.toUpper) :
    (likeCase cs w).head? = cs.head? := by
  refine head?_likeCase h ?_ hw
  rw [← hh, hv, Text.lower, Text.lowerFrom_of_ascii fun c hc => lt_of_isWordChar (h c hc),
    List.head?_map]

theorem head?_singularChars : (singularChars cs).head? = cs.head? := by
  rw [singularChars]
  split
  · rename_i w hw
    obtain ⟨hh, -, hcap⟩ := irregulars_head w (List.mem_of_find?_eq_some hw)
    exact head?_irregular h (by simpa using List.find?_some hw) hh hcap
  · split
    · rename_i stem hs
      obtain ⟨hn, rfl⟩ := stem?_eq_some.mp hs
      rw [List.head?_append_of_ne_nil _ hn, List.head?_append_of_ne_nil _ hn]
    · split
      · rename_i hs
        obtain ⟨e, he, hs⟩ := List.any_eq_true.mp hs
        obtain ⟨stem, hs⟩ := Option.isSome_iff_exists.mp hs
        obtain ⟨-, rfl⟩ := stem?_eq_some.mp hs
        have hlong : ∀ e ∈ sibilants, 3 ≤ e.toList.length := by decide
        have hlength := hlong e he
        rw [List.head?_take, if_neg (by rw [List.length_append]; omega)]
      · split
        · rename_i stem hs
          obtain ⟨hn, rfl⟩ := stem?_eq_some.mp hs
          split
          · rfl
          · rw [List.head?_append_of_ne_nil _ hn]
        · rfl

theorem head?_pluralChars (hn : cs ≠ []) : (pluralChars cs).head? = cs.head? := by
  rw [pluralChars]
  split
  · rename_i w hw
    obtain ⟨hh, hcap, -⟩ := irregulars_head w (List.mem_of_find?_eq_some hw)
    exact head?_irregular h (by simpa using List.find?_some hw) hh.symm hcap
  · split_ifs with hy
    · obtain ⟨stem, hs, rfl⟩ := endsInConsonantY_cases hy
      rw [List.length_append, List.length_singleton, Nat.add_sub_cancel, List.take_left,
        List.head?_append_of_ne_nil _ hs, List.head?_append_of_ne_nil _ hs]
    · rw [List.head?_append_of_ne_nil _ hn]
    · rw [List.head?_append_of_ne_nil _ hn]

end Inflected

theorem isIdentifier_singularChars {cs : List Char} (h : isIdentifier cs = true) :
    isIdentifier (singularChars cs) = true := by
  have hword : ∀ c ∈ cs, isWordChar c = true := fun _ => isWordChar_of_mem h
  rw [isIdentifier_of_isWordChar fun _ => closed_isWordChar.singularChars hword,
    head?_singularChars hword, ← isIdentifier_of_isWordChar hword, h]

theorem isIdentifier_pluralChars {cs : List Char} (h : isIdentifier cs = true) :
    isIdentifier (pluralChars cs) = true := by
  have hword : ∀ c ∈ cs, isWordChar c = true := fun _ => isWordChar_of_mem h
  rw [isIdentifier_of_isWordChar fun _ => closed_isWordChar.pluralChars hword,
    head?_pluralChars hword (ne_nil_of_isIdentifier h), ← isIdentifier_of_isWordChar hword, h]

end Scaffold.Name
