import Scaffold.Proofs.Name.Fixpoints
import Scaffold.Proofs.Name.Head

/-! # Number and capitals

An ending is looked for behind the first character of a word, if the word is long enough, so that
its singular and its plural do not depend on whether it is capitalised.
-/

namespace Scaffold.Name

variable {c : Char} {cs t : List Char}

def capital (s : String) : String := String.ofList (headed Text.upperChar s.toList)

theorem headed_upperChar_eq (h : ∀ c ∈ cs, isWordChar c = true) :
    headed Text.upperChar cs = cs.modifyHead Char.toUpper := by
  cases cs with
  | nil => rfl
  | cons c t =>
    rw [headed, Text.upperChar_of_ascii (lt_of_isWordChar (h c List.mem_cons_self))]
    rfl

/-! ### Endings behind the first character -/

theorem stem?_cons (e : String) (c : Char) (t : List Char) :
    stem? e (c :: t) = (Text.before? e.toList t).map (c :: ·) := by
  ext stem
  simp only [stem?_eq_some, Option.map_eq_some_iff, Text.before?_eq_some]
  constructor
  · rintro ⟨hn, hcs⟩
    obtain ⟨d, s, rfl⟩ := List.exists_cons_of_ne_nil hn
    cases hcs
    exact ⟨s, rfl, rfl⟩
  · rintro ⟨s, rfl, rfl⟩
    exact ⟨List.cons_ne_nil c s, rfl⟩

theorem before?_cons_isSome {e : List Char} (he : e.length ≤ t.length) :
    (Text.before? e (c :: t)).isSome = (Text.before? e t).isSome := by
  rw [Bool.eq_iff_iff, before?_isSome, before?_isSome, List.suffix_cons_iff, or_iff_right]
  rintro rfl
  exact absurd he (Nat.not_succ_le_self _)

theorem endsInConsonantY_cons (ht : 2 ≤ t.length) :
    endsInConsonantY (c :: t) = endsInConsonantY t := by
  rw [← List.length_reverse] at ht
  rw [endsInConsonantY, endsInConsonantY, List.reverse_cons]
  generalize t.reverse = r at ht ⊢
  rcases r with _ | ⟨d, _ | ⟨e, s⟩⟩
  · simp at ht
  · simp at ht
  · by_cases hd : d = 'y'
    · subst hd
      rfl
    · simp [hd]

theorem exists_singularChars_cons (ht : 2 ≤ t.length) : ∃ r, ∀ c,
    irregulars.find? (fun w => w.1 = Text.lower (c :: t)) = none →
      singularChars (c :: t) = c :: r := by
  cases hies : Text.before? "ies".toList t with
  | some s =>
    refine ⟨s ++ ['y'], fun c hc => ?_⟩
    rw [singularChars, hc, stem?_cons, hies]
    rfl
  | none =>
    cases hes : sibilants.any fun e => (Text.before? e.toList t).isSome with
    | true =>
      refine ⟨t.take (t.length - 2), fun c hc => ?_⟩
      have hlength : t.length + 1 - 2 = t.length - 2 + 1 := by omega
      rw [singularChars, hc, stem?_cons, hies]
      simp [stem?_cons, hes, hlength]
    | false =>
      have hss (c : Char) := before?_cons_isSome (c := c) (e := ['s', 's']) ht
      cases hs : Text.before? ['s'] t with
      | none =>
        refine ⟨t, fun c hc => ?_⟩
        rw [singularChars, hc, stem?_cons, hies]
        simp [stem?_cons, hes, hs]
      | some s =>
        refine ⟨if (Text.before? ['s', 's'] t).isSome then t else s, fun c hc => ?_⟩
        rw [singularChars, hc, stem?_cons, hies]
        simp [stem?_cons, hes, hs, hss, apply_ite (c :: ·)]

theorem exists_pluralChars_cons (ht : 2 ≤ t.length) : ∃ r, ∀ c,
    irregulars.find? (fun w => w.2 = Text.lower (c :: t)) = none →
      pluralChars (c :: t) = c :: r := by
  have hhisses (c : Char) : (hisses.any fun e => (Text.before? e.toList (c :: t)).isSome) =
      hisses.any fun e => (Text.before? e.toList t).isSome := by
    have hshort : ∀ e ∈ hisses, e.toList.length ≤ 2 := by decide
    rw [Bool.eq_iff_iff, List.any_eq_true, List.any_eq_true]
    refine exists_congr fun e => and_congr_right fun he => ?_
    rw [before?_cons_isSome ((hshort e he).trans ht)]
  refine ⟨if endsInConsonantY t then t.take (t.length - 1) ++ ['i', 'e', 's']
    else if hisses.any fun e => (Text.before? e.toList t).isSome then t ++ ['e', 's']
    else t ++ ['s'], fun c hc => ?_⟩
  have hlength : (c :: t).length - 1 = t.length - 1 + 1 := by
    rw [List.length_cons]
    omega
  rw [pluralChars, hc, ← hisses]
  simp only [endsInConsonantY_cons ht, hhisses, hlength, List.take_succ_cons, List.cons_append,
    apply_ite (c :: ·)]

/-! ### Capitalised words -/

section Word

variable (h : ∀ d ∈ c :: t, isSmallWordChar d = true)
include h

theorem lower_toUpper_cons : Text.lower (c.toUpper :: t) = c :: t := by
  have hword : ∀ d ∈ c :: t, isWordChar d = true := fun d hd =>
    isWordChar_of_isSmallWordChar (h d hd)
  obtain ⟨hc, ht⟩ := List.forall_mem_cons.mp hword
  have hupper : ∀ d ∈ c.toUpper :: t, isWordChar d = true :=
    List.forall_mem_cons.mpr ⟨(cased hc).isWordChar_toUpper, ht⟩
  rw [← lower_of_isSmallWordChar h, Text.lower, Text.lower,
    Text.lowerFrom_of_ascii fun d hd => lt_of_isWordChar (hupper d hd), List.map_cons,
    (cased hc).toLower_toUpper, ← List.map_cons]
  rw [Text.lowerFrom_of_ascii fun d hd => lt_of_isWordChar (hword d hd)]

variable (hc : isLetter c = true)
include hc

theorem likeCase_toUpper_cons {w : List Char} (hw : Text.capitalize w = w.modifyHead Char.toUpper) :
    likeCase (c.toUpper :: t) w = (likeCase (c :: t) w).modifyHead Char.toUpper := by
  have hcap := forall_wordChar (fun c => isLetter c = true → isCapital c.toUpper = true)
    (by decide +kernel) (isWordChar_of_isLetter hc) hc
  rw [likeCase_of_isSmallWordChar h, ← hw]
  exact if_pos hcap

/-- What looks for an irregular word, and else at what follows the first character, respells a word
in the same way with a capital. -/
theorem inflected_toUpper_cons {f : List Char → List Char}
    {k v : List Char × List Char → List Char}
    (hs : ∀ cs w, irregulars.find? (fun w => k w = Text.lower cs) = some w →
      f cs = likeCase cs (v w))
    (hv : ∀ w ∈ irregulars, Text.capitalize (v w) = (v w).modifyHead Char.toUpper)
    (hn : ∃ r, ∀ c, irregulars.find? (fun w => k w = Text.lower (c :: t)) = none →
      f (c :: t) = c :: r) :
    f (c.toUpper :: t) = (f (c :: t)).modifyHead Char.toUpper := by
  have hlower := lower_of_isSmallWordChar h
  have hupper := lower_toUpper_cons h
  cases hw : irregulars.find? fun w => k w = c :: t with
  | some w =>
    rw [hs (c :: t) w (by rw [hlower, hw]), hs (c.toUpper :: t) w (by rw [hupper, hw])]
    exact likeCase_toUpper_cons h hc (hv w (List.mem_of_find?_eq_some hw))
  | none =>
    obtain ⟨r, hr⟩ := hn
    rw [hr c (by rw [hlower, hw]), hr c.toUpper (by rw [hupper, hw])]
    rfl

theorem singularChars_toUpper_cons (ht : 2 ≤ t.length) :
    singularChars (c.toUpper :: t) = (singularChars (c :: t)).modifyHead Char.toUpper :=
  inflected_toUpper_cons h hc (fun cs w hw => by rw [singularChars, hw])
    (fun w hw => (irregulars_head w hw).2.2) (exists_singularChars_cons ht)

theorem pluralChars_toUpper_cons (ht : 2 ≤ t.length) :
    pluralChars (c.toUpper :: t) = (pluralChars (c :: t)).modifyHead Char.toUpper :=
  inflected_toUpper_cons h hc (fun cs w hw => by rw [pluralChars, hw])
    (fun w hw => (irregulars_head w hw).2.1) (exists_pluralChars_cons ht)

end Word

section Capital

variable {w : String} (h : ∀ c ∈ w.toList, isSmallWordChar c = true)
include h

theorem pascal_eq_capital (hu : '_' ∉ w.toList) : pascal w = capital w := by
  rw [pascal, capital, pascalChars_eq_headed, runTogether_of_forall]
  intro c hc
  rw [isSeparator_of_isWordChar (isWordChar_of_isSmallWordChar (h c hc)), beq_eq_false_iff_ne]
  rintro rfl
  exact hu hc

variable (hl : 3 ≤ w.length) (hc : w.toList.head?.any isLetter = true)
include hl hc

theorem ofList_capital {f : List Char → List Char}
    (hclosed : ∀ {cs}, (∀ c ∈ cs, isWordChar c = true) → ∀ d ∈ f cs, isWordChar d = true)
    (hf : ∀ {c t}, (∀ d ∈ c :: t, isSmallWordChar d = true) → isLetter c = true → 2 ≤ t.length →
      f (c.toUpper :: t) = (f (c :: t)).modifyHead Char.toUpper) :
    String.ofList (f (capital w).toList) = capital (String.ofList (f w.toList)) := by
  have hword : ∀ c ∈ w.toList, isWordChar c = true := fun c hm =>
    isWordChar_of_isSmallWordChar (h c hm)
  rw [capital, capital, String.toList_ofList, String.toList_ofList, headed_upperChar_eq hword,
    headed_upperChar_eq (hclosed hword)]
  rw [← String.length_toList] at hl
  match w.toList, h, hl, hc with
  | c :: t, h, hl, hc => exact congrArg String.ofList (hf h hc (Nat.le_of_succ_le_succ hl))

theorem singularize_capital : singularize (capital w) = capital (singularize w) :=
  ofList_capital h hl hc (fun hcs _ => closed_isWordChar.singularChars hcs)
    singularChars_toUpper_cons

theorem pluralize_capital : pluralize (capital w) = capital (pluralize w) :=
  ofList_capital h hl hc (fun hcs _ => closed_isWordChar.pluralChars hcs) pluralChars_toUpper_cons

end Capital

end Scaffold.Name
