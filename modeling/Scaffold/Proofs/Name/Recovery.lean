import Scaffold.Proofs.Name.Respelling

/-! # Names recovered from their spellings

The spellings with capitals lose the underscores of a name, and the spelling with underscores brings
back one before every capital. So a name that has been spelled with capitals is spelled with
underscores like the name itself exactly if a small letter stands behind each of its underscores,
apart from one at its head, which no spelling keeps.
-/

namespace Scaffold.Name

variable {c : Char} {cs rest : List Char} {name : String}

/-! ### Underscores before small letters -/

/-- A small letter stands behind every underscore. -/
def Followed (cs : List Char) : Prop :=
  ∀ rest, '_' :: rest <:+ cs → rest.head?.any Char.isLower = true

theorem followed_nil : Followed [] := by
  intro rest h
  cases List.suffix_nil.mp h

theorem followed_cons :
    Followed (c :: cs) ↔ (c = '_' → cs.head?.any Char.isLower = true) ∧ Followed cs := by
  constructor
  · intro h
    refine ⟨?_, fun rest hr => h rest (hr.trans (List.suffix_cons c cs))⟩
    rintro rfl
    exact h cs List.suffix_rfl
  · rintro ⟨hc, hcs⟩ rest hr
    rcases List.suffix_cons_iff.mp hr with he | hr
    · cases he
      exact hc rfl
    · exact hcs rest hr

theorem followed_cons_of_ne (hc : c ≠ '_') : Followed (c :: cs) ↔ Followed cs := by
  simp [followed_cons, hc]

def decideFollowed : ∀ cs, Decidable (Followed cs)
  | [] => isTrue followed_nil
  | _ :: cs =>
    have := decideFollowed cs
    decidable_of_iff _ followed_cons.symm

instance (cs : List Char) : Decidable (Followed cs) := decideFollowed cs

/-! ### Words run together and spread out again -/

theorem spread_underscore (cs : List Char) : spread ('_' :: cs) = '_' :: spread cs := rfl

theorem isLower_cases (hw : isWordChar c = true) (hc : c ≠ '_') :
    c.isLower = true ∧ isCapital c = false ∧ isCapital c.toUpper = true ∧ c.toUpper.toLower = c ∨
      c.isLower = false ∧ (isCapital c = true ∨ isCapital c = false ∧ c.toUpper = c) :=
  forall_wordChar (fun c => c ≠ '_' →
    c.isLower = true ∧ isCapital c = false ∧ isCapital c.toUpper = true ∧ c.toUpper.toLower = c ∨
      c.isLower = false ∧ (isCapital c = true ∨ isCapital c = false ∧ c.toUpper = c))
    (by decide +kernel) hw hc

/-- At most one underscore is brought back at the head. -/
theorem spread_runTogether_ne (h : ∀ d ∈ cs, isWordChar d = true) :
    spread (runTogether true cs) ≠ '_' :: '_' :: rest := by
  rw [runTogether_true h]
  cases hb : bare cs with
  | nil => simp [spread]
  | cons c t =>
    have hw : isWordChar c = true := h c (mem_of_mem_bare (by simp [hb]))
    have hu : c ≠ '_' := ne_underscore_of_bare (by rw [hb]; rfl)
    intro he
    rw [spread_cons] at he
    split at he
    · obtain ⟨-, he⟩ := List.cons.inj he
      refine (toLower_ne_underscore hw hu).2 ?_
      rw [← (cased hw).toLower_toUpper]
      exact (List.cons.inj he).1
    · exact (cased hw).toUpper_ne_underscore hu (List.cons.inj he).1

/-- Words that run together are spread out as before exactly if a small letter stands behind every
underscore; `head` says whether one stands before them. -/
theorem spread_runTogether (h : ∀ d ∈ cs, isWordChar d = true) (head : Bool) :
    spread (runTogether head cs) = (if head then ['_'] else []) ++ spread cs ↔
      (head = true → cs.head?.any Char.isLower = true) ∧ Followed cs := by
  induction cs generalizing head with
  | nil => cases head <;> simp [runTogether, spread, followed_nil]
  | cons c cs ih =>
    obtain ⟨hw, hcs⟩ := List.forall_mem_cons.mp h
    by_cases hu : c = '_'
    · subst hu
      rw [runTogether_underscore, spread_underscore, followed_cons]
      cases head with
      | false => simpa using ih hcs true
      | true =>
        have hlower : '_'.isLower = false := by decide
        simpa [hlower] using spread_runTogether_ne hcs
    have hrest : spread (runTogether false cs) = spread cs ↔ Followed cs := by
      simpa using ih hcs false
    rw [runTogether_of_ne hw hu, followed_cons_of_ne hu, List.head?_cons, Option.any_some]
    cases head with
    | false => simp [spread_cons (c := c), hrest]
    | true =>
      simp only [if_true, true_imp_iff, List.singleton_append]
      -- Only a small letter becomes a capital and so brings the underscore back.
      rcases isLower_cases hw hu with ⟨hl, hc, hup, hback⟩ | ⟨hl, hc | ⟨hc, hsame⟩⟩
      · simp [spread_cons, hl, hc, hup, hback, hrest]
      · have hne : spread (runTogether true (c :: cs)) ≠ '_' :: '_' :: c.toLower :: spread cs :=
          spread_runTogether_ne h
        rw [runTogether_of_ne hw hu, if_pos rfl] at hne
        simpa [spread_cons (c := c), hl, hc] using hne
      · simp [spread_cons, hl, hc, hsame, hu]

theorem spread_runTogether_false (h : ∀ d ∈ cs, isWordChar d = true) :
    spread (runTogether false cs) = spread cs ↔ Followed cs := by
  simpa using spread_runTogether h false

/-! ### Recovered names -/

def recovered (cs : List Char) : List Char :=
  match bare cs with
  | [] => []
  | c :: t => c.toLower :: spread (runTogether false t)

theorem dropLeading_spread (hw : isWordChar c = true) (hu : c ≠ '_') :
    dropLeading '_' (spread (c :: cs)) = c.toLower :: spread cs := by
  rw [spread_cons]
  by_cases hc : isCapital c = true
  · simp [hc, dropLeading]
  · simp [hc, dropLeading, hu, (cased hw).toLower_of_not_isCapital (Bool.not_eq_true _ ▸ hc)]

theorem snakeChars_modifyHead {f : Char → Char} (h : ∀ d ∈ cs, isWordChar d = true)
    (hf : ∀ c, isWordChar c = true → c ≠ '_' →
      isWordChar (f c) = true ∧ f c ≠ '_' ∧ (f c).toLower = c.toLower) :
    snakeChars ((runTogether true cs).modifyHead f) = recovered cs := by
  rw [runTogether_true h, recovered]
  cases hb : bare cs with
  | nil => rfl
  | cons c t =>
    have hword : ∀ d ∈ c :: t, isWordChar d = true := fun d hd => h d (mem_of_mem_bare (hb ▸ hd))
    obtain ⟨hw, ht⟩ := List.forall_mem_cons.mp hword
    have hu : c ≠ '_' := ne_underscore_of_bare (by rw [hb]; rfl)
    obtain ⟨hfw, hfu, hfl⟩ := hf c.toUpper (cased hw).isWordChar_toUpper
      ((cased hw).toUpper_ne_underscore hu)
    have hall : ∀ d ∈ f c.toUpper :: runTogether false t, isWordChar d = true :=
      List.forall_mem_cons.mpr ⟨hfw, fun d => closed_isWordChar.runTogether ht⟩
    simp only [List.modifyHead_cons]
    rw [snakeChars_of_isWordChar hall, dropLeading_spread hfw hfu, hfl, (cased hw).toLower_toUpper]

theorem snakeChars_camelChars (h : ∀ d ∈ cs, isWordChar d = true) :
    snakeChars (camelChars cs) = recovered cs := by
  rw [camelChars_eq h]
  refine snakeChars_modifyHead h fun c hw hu => ?_
  obtain ⟨hl, hlu⟩ := toLower_ne_underscore hw hu
  exact ⟨hl, hlu, (cased hw).toLower_toLower⟩

theorem snakeChars_pascalChars (h : ∀ d ∈ cs, isWordChar d = true) :
    snakeChars (pascalChars cs) = recovered cs := by
  rw [pascalChars_eq h]
  exact snakeChars_modifyHead h fun c hw hu =>
    ⟨(cased hw).isWordChar_toUpper, (cased hw).toUpper_ne_underscore hu, (cased hw).toLower_toUpper⟩

/-- A small letter stands behind every underscore but one at the head of a name, and behind that one
stands no underscore and no capital. -/
@[mk_iff]
structure Recoverable (cs : List Char) : Prop where
  inside : Followed cs.tail
  head : cs.head? = some '_' → ∀ c ∈ cs.tail.head?, c ≠ '_' ∧ isCapital c = false

theorem recovered_eq_spread (h : ∀ d ∈ cs, isWordChar d = true) :
    recovered cs = spread cs ↔
      Followed cs ∧ ∀ c ∈ cs.head?, c ≠ '_' ∧ isCapital c = false := by
  cases cs with
  | nil => simp [recovered, bare, spread, followed_nil]
  | cons c t =>
    obtain ⟨hw, ht⟩ := List.forall_mem_cons.mp h
    by_cases hu : c = '_'
    · subst hu
      have hne : recovered ('_' :: t) ≠ '_' :: spread t := by
        rw [recovered, bare_underscore]
        cases hb : bare t with
        | nil => simp
        | cons d u =>
          have hd : isWordChar d = true := ht d (mem_of_mem_bare (by simp [hb]))
          have hdu : d ≠ '_' := ne_underscore_of_bare (by rw [hb]; rfl)
          exact fun he => (toLower_ne_underscore hd hdu).2 (List.cons.inj he).1
      rw [spread_underscore]
      simpa using hne
    · rw [recovered, bare_of_ne hu, followed_cons_of_ne hu, spread_cons,
        ← spread_runTogether_false ht]
      by_cases hc : isCapital c = true
      · simp [hc, (toLower_ne_underscore hw hu).2]
      · simp [hc, hu, (cased hw).toLower_of_not_isCapital (Bool.not_eq_true _ ▸ hc)]

theorem recovered_eq_snakeChars (h : isIdentifier cs = true) :
    recovered cs = snakeChars cs ↔ Recoverable cs := by
  obtain ⟨c, t, rfl, hstart, ht⟩ := isIdentifier_iff.mp h
  have hw := isWordChar_of_isWordStart hstart
  rw [snakeChars_of_isWordChar fun _ => isWordChar_of_mem h, recoverable_iff, List.tail_cons,
    List.head?_cons]
  by_cases hu : c = '_'
  · subst hu
    rw [spread_underscore, dropLeading, if_pos rfl, recovered, bare_underscore, ← recovered,
      recovered_eq_spread ht]
    simp
  · rw [dropLeading_spread hw hu, recovered, bare_of_ne hu, ← spread_runTogether_false ht]
    simp [hu]

/-- The two spellings with capitals of an identifier have the same spelling with underscores. It is
that of the identifier itself if and only if a small letter stands behind every underscore but one
at the head, and behind that one no underscore and no capital. -/
theorem recovered_iff (h : isIdentifier name.toList = true) :
    snake (camel name) = snake (pascal name) ∧
      (snake (camel name) = snake name ↔ Recoverable name.toList) := by
  have hword : ∀ c ∈ name.toList, isWordChar c = true := fun c => isWordChar_of_mem h
  simp only [snake, camel, pascal, String.toList_ofList, String.ofList_inj]
  rw [snakeChars_camelChars hword, snakeChars_pascalChars hword]
  exact ⟨rfl, recovered_eq_snakeChars h⟩

theorem recovered_iff_address : isIdentifier "_homeAddress_line".toList = true ∧
    snake (camel "_homeAddress_line") = snake (pascal "_homeAddress_line") ∧
    snake (camel "_homeAddress_line") = snake "_homeAddress_line" ∧
    isIdentifier "address_2".toList = true ∧ snake (camel "address_2") ≠ snake "address_2" := by
  have hline : isIdentifier "_homeAddress_line".toList = true := by decide
  have hnumber : isIdentifier "address_2".toList = true := by decide
  obtain ⟨halike, hback⟩ := recovered_iff hline
  have hrecoverable : Recoverable "_homeAddress_line".toList := by
    refine ⟨by decide, fun _ c hc => ?_⟩
    cases hc
    decide
  refine ⟨hline, halike, hback.mpr hrecoverable, hnumber, fun he => ?_⟩
  exact absurd ((recovered_iff hnumber).2.mp he).inside (by decide)

end Scaffold.Name
