import Scaffold.Name.Inflection
import Scaffold.Proofs.Name.Spelling

/-! # Plurals led back to their words

The plural of a word in small letters is made by the end of the word, and made singular again by the
end of the plural. The second step undoes the first unless the plural has an end that also belongs
to words of another kind, as `ses` in `houses` and `classes`.
-/

namespace Scaffold.Name

variable {e : String} {cs stem tail w : List Char}

/-! ### Endings -/

def Ends (ending cs : List Char) : Prop := ∃ stem, stem ≠ [] ∧ cs = stem ++ ending

theorem ends_append {ending : List Char} : Ends (ending ++ tail) (cs ++ tail) ↔ Ends ending cs := by
  simp only [Ends, ← List.append_assoc, List.append_cancel_right_eq]

theorem ends_iff {ending : List Char} :
    Ends ending cs ↔ ending <:+ cs ∧ ending.length < cs.length := by
  constructor
  · rintro ⟨stem, hn, rfl⟩
    have := List.length_pos_iff.mpr hn
    exact ⟨List.suffix_append _ _, by rw [List.length_append]; omega⟩
  · rintro ⟨⟨stem, rfl⟩, hlength⟩
    refine ⟨stem, ?_, rfl⟩
    rintro rfl
    exact absurd hlength (Nat.lt_irrefl _)

theorem stem?_eq_none : stem? e cs = none ↔ ¬ Ends e.toList cs := by
  rw [Option.eq_none_iff_forall_ne_some, Ends, not_exists]
  exact forall_congr' fun stem => not_congr stem?_eq_some

theorem stem?_isSome : (stem? e cs).isSome = true ↔ Ends e.toList cs := by
  rw [Option.isSome_iff_exists, Ends]
  exact exists_congr fun stem => stem?_eq_some

theorem before?_isSome : (Text.before? tail cs).isSome = true ↔ tail <:+ cs := by
  rw [Option.isSome_iff_exists]
  exact exists_congr fun stem => Text.before?_eq_some.trans eq_comm

/-! ### Words in small letters -/

def isSmallWordChar (c : Char) : Bool := isWordChar c && !isCapital c

theorem isWordChar_of_isSmallWordChar {c : Char} (h : isSmallWordChar c = true) :
    isWordChar c = true :=
  (Bool.and_eq_true_iff.mp h).1

theorem lowerFrom_of_isSmallWordChar {before : Bool} (h : ∀ c ∈ cs, isSmallWordChar c = true) :
    Text.lowerFrom before cs = cs := by
  have hword : ∀ c ∈ cs, isWordChar c = true ∧ isCapital c = false := by
    simpa [isSmallWordChar] using h
  rw [Text.lowerFrom_of_ascii fun c hc => lt_of_isWordChar (hword c hc).1]
  refine (List.map_congr_left fun c hc => ?_).trans (List.map_id cs)
  exact (cased (hword c hc).1).toLower_of_not_isCapital (hword c hc).2

theorem lower_of_isSmallWordChar (h : ∀ c ∈ cs, isSmallWordChar c = true) : Text.lower cs = cs :=
  lowerFrom_of_isSmallWordChar h

theorem capitalize_of_isSmallWordChar (h : ∀ c ∈ cs, isSmallWordChar c = true) :
    Text.capitalize cs = cs.modifyHead Char.toUpper := by
  cases cs with
  | nil => rfl
  | cons c t =>
    obtain ⟨hc, ht⟩ := List.forall_mem_cons.mp h
    have hascii := lt_of_isWordChar (isWordChar_of_isSmallWordChar hc)
    rw [Text.capitalize, Text.titleChar_of_ascii hascii, lowerFrom_of_isSmallWordChar ht]
    rfl

theorem likeCase_of_isSmallWordChar (h : ∀ c ∈ cs, isSmallWordChar c = true) :
    likeCase cs w = w := by
  cases cs with
  | nil => rfl
  | cons c t =>
    have hc : isCapital c = false := by
      have := h c List.mem_cons_self
      simp_all [isSmallWordChar]
    simp [likeCase, hc]

/-! ### Making a plural -/

/-- Endings that take another syllable in the plural. -/
def hisses : List String := ["s", "x", "z", "ch", "sh"]

theorem sibilants_eq : sibilants = hisses.map (· ++ "es") := by decide

inductive PluralOf (w : List Char) : List Char → Prop
  | irregular {p : List Char} (h : (p, w) ∈ irregulars) : PluralOf w p
  | ies {stem : List Char} (hn : stem ≠ []) (hw : w = stem ++ ['y']) :
      PluralOf w (stem ++ ['i', 'e', 's'])
  | es {e : String} (he : e ∈ hisses) (hw : e.toList <:+ w) : PluralOf w (w ++ ['e', 's'])
  | s (hi : ∀ p, (p, w) ∉ irregulars) (hw : ∀ e ∈ hisses, ¬ e.toList <:+ w) :
      PluralOf w (w ++ ['s'])

theorem endsInConsonantY_cases (h : endsInConsonantY cs = true) :
    ∃ stem, stem ≠ [] ∧ cs = stem ++ ['y'] := by
  rw [endsInConsonantY] at h
  split at h
  · rename_i c rest hr
    have hcs := congrArg List.reverse hr
    rw [List.reverse_reverse] at hcs
    refine ⟨rest.reverse ++ [c], by simp, ?_⟩
    simpa using hcs
  · cases h

theorem pluralOf_pluralChars (h : ∀ c ∈ w, isSmallWordChar c = true) :
    PluralOf w (pluralChars w) := by
  rw [pluralChars, lower_of_isSmallWordChar h]
  split
  · rename_i p hp
    have hw : p.2 = w := by simpa using List.find?_some hp
    subst hw
    rw [likeCase_of_isSmallWordChar h]
    exact .irregular (List.mem_of_find?_eq_some hp)
  rename_i hp
  split_ifs with hy hh
  · obtain ⟨stem, hn, rfl⟩ := endsInConsonantY_cases hy
    rw [List.length_append, List.length_singleton, Nat.add_sub_cancel, List.take_left]
    exact .ies hn rfl
  · obtain ⟨e, he, hw⟩ := List.any_eq_true.mp hh
    exact .es he (before?_isSome.mp hw)
  · refine .s (fun p hm => ?_) fun e he hw => hh ?_
    · exact absurd rfl (of_decide_eq_false (Bool.eq_false_iff.mpr (List.find?_eq_none.mp hp _ hm)))
    · exact List.any_eq_true.mpr ⟨e, he, before?_isSome.mpr hw⟩

/-! ### Making it singular again -/

section Singular

variable (hl : Text.lower cs = cs) (hi : ∀ p ∈ irregulars, p.1 ≠ cs)
include hl hi

theorem find_irregulars : irregulars.find? (fun w => w.1 = Text.lower cs) = none :=
  List.find?_eq_none.mpr fun p hp => by simpa [hl] using hi p hp

theorem singularChars_ies (hn : stem ≠ []) (hcs : cs = stem ++ ['i', 'e', 's']) :
    singularChars cs = stem ++ ['y'] := by
  have hs : stem? "ies" cs = some stem := stem?_eq_some.mpr ⟨hn, hcs⟩
  rw [singularChars, find_irregulars hl hi, hs]

theorem singularChars_es (hies : ¬ Ends ['i', 'e', 's'] cs)
    (he : ∃ e ∈ hisses, Ends (e.toList ++ ['e', 's']) cs) :
    singularChars cs = cs.take (cs.length - 2) := by
  have hnone : stem? "ies" cs = none := stem?_eq_none.mpr hies
  obtain ⟨e, he, hcs⟩ := he
  have hany : (sibilants.any fun e => (stem? e cs).isSome) = true := by
    rw [sibilants_eq, List.any_map]
    refine List.any_eq_true.mpr ⟨e, he, stem?_isSome.mpr ?_⟩
    rwa [String.toList_append]
  rw [singularChars, find_irregulars hl hi, hnone]
  simp only [hany, if_true]

theorem singularChars_s (hies : ¬ Ends ['i', 'e', 's'] cs)
    (he : ¬ ∃ e ∈ hisses, Ends (e.toList ++ ['e', 's']) cs) (hn : stem ≠ [])
    (hcs : cs = stem ++ ['s']) (hss : ¬ ['s'] <:+ stem) : singularChars cs = stem := by
  have hs : stem? "s" cs = some stem := stem?_eq_some.mpr ⟨hn, hcs⟩
  have hany : (sibilants.any fun e => (stem? e cs).isSome) = false := by
    rw [sibilants_eq, List.any_map, List.any_eq_false]
    intro e hm
    rw [Function.comp_apply, stem?_isSome, String.toList_append]
    exact fun h => he ⟨e, hm, h⟩
  have hdouble : Text.before? ['s', 's'] cs = none := by
    rw [Option.eq_none_iff_forall_ne_some]
    intro q hq
    rw [Text.before?_eq_some, hcs, show ['s', 's'] = ['s'] ++ ['s'] from rfl, ← List.append_assoc,
      List.append_cancel_right_eq] at hq
    exact hss ⟨q, hq.symm⟩
  have hnone : stem? "ies" cs = none := stem?_eq_none.mpr hies
  simp [singularChars, find_irregulars hl hi, hnone, hany, hs, hdouble]

end Singular

/-! ### Lost words -/

/-- The words that their plurals do not lead back to. -/
def Lost (w : List Char) : Prop :=
  w ∈ ["s", "x", "z", "ch", "sh", "indice", "matrice"].map String.toList ∨
    (w ≠ "mouse".toList ∧ 3 ≤ w.length ∧ ∃ e ∈ ["ie", "se", "xe", "ze"], e.toList <:+ w) ∨
    4 ≤ w.length ∧ ∃ e ∈ ["che", "she"], e.toList <:+ w

instance (w : List Char) : Decidable (Lost w) := inferInstanceAs (Decidable (_ ∨ _ ∨ _))

/-- A lost word has an `e` at its end, or is itself an ending that takes another syllable. -/
theorem Lost.cases (h : Lost w) : ['e'] <:+ w ∨ ∃ e ∈ hisses, w = e.toList := by
  rcases h with h | ⟨-, -, e, he, h⟩ | ⟨-, e, he, h⟩
  · have hlist : ∀ w ∈ ["s", "x", "z", "ch", "sh", "indice", "matrice"].map String.toList,
        ['e'] <:+ w ∨ ∃ e ∈ hisses, w = e.toList := by decide
    exact hlist w h
  · have hends : ∀ e ∈ ["ie", "se", "xe", "ze"], ['e'] <:+ e.toList := by decide
    exact Or.inl ((hends e he).trans h)
  · have hends : ∀ e ∈ ["che", "she"], ['e'] <:+ e.toList := by decide
    exact Or.inl ((hends e he).trans h)

theorem not_suffix_of_hiss {c : Char} (hc : ∀ e ∈ hisses, ¬ [c] <:+ e.toList) (he : e ∈ hisses)
    (hw : e.toList <:+ w) : ¬ [c] <:+ w := by
  intro h
  have hlength : ∀ e ∈ hisses, 1 ≤ e.toList.length := by decide
  exact hc e he (List.suffix_of_suffix_length_le h hw (hlength e he))

theorem not_lost_y : ¬ Lost (stem ++ ['y']) := by
  intro h
  rcases h.cases with ⟨t, ht⟩ | ⟨e, he, hw⟩
  · cases List.singleton_inj.mp (List.append_inj' ht rfl).2
  · have hends : ∀ e ∈ hisses, ¬ ['y'] <:+ e.toList := by decide
    exact hends e he ⟨stem, hw⟩

theorem not_lost_hiss (hn : stem ≠ []) (he : e ∈ hisses) : ¬ Lost (stem ++ e.toList) := by
  have hw : e.toList <:+ stem ++ e.toList := List.suffix_append _ _
  intro h
  rcases h.cases with hv | ⟨e', he', hw'⟩
  · exact not_suffix_of_hiss (by decide) he hw hv
  · have hends : ∀ e' ∈ hisses, ∀ e ∈ hisses, e.toList <:+ e'.toList → e'.toList = e.toList := by
      decide
    rw [hends e' he' e he (hw' ▸ hw)] at hw'
    exact hn (by simpa using hw')

theorem lost_iff_of_regular (hm : w ≠ "mouse".toList) (hw : ∀ e ∈ hisses, ¬ e.toList <:+ w) :
    Lost w ↔ (w = "indice".toList ∨ w = "matrice".toList) ∨ Ends ['i', 'e'] w ∨
      ∃ e ∈ hisses, Ends (e.toList ++ ['e']) w := by
  have hself : ∀ e ∈ hisses, w ≠ e.toList := by
    rintro e he rfl
    exact hw e he List.suffix_rfl
  constructor
  · rintro (h | ⟨-, hlength, e, he, h⟩ | ⟨hlength, e, he, h⟩)
    · have hlist : ∀ w ∈ ["s", "x", "z", "ch", "sh", "indice", "matrice"].map String.toList,
          (∃ e ∈ hisses, w = e.toList) ∨ w = "indice".toList ∨ w = "matrice".toList := by decide
      rcases hlist w h with ⟨e, he, h⟩ | h
      · exact absurd h (hself e he)
      · exact Or.inl h
    · have hends : ∀ e ∈ ["ie", "se", "xe", "ze"], e.toList.length = 2 ∧
          (e.toList = ['i', 'e'] ∨ ∃ e' ∈ hisses, e.toList = e'.toList ++ ['e']) := by decide
      obtain ⟨htwo, hcases⟩ := hends e he
      have hend : Ends e.toList w := ends_iff.mpr ⟨h, by omega⟩
      rcases hcases with hie | ⟨e', he', hse⟩
      · exact Or.inr (Or.inl (hie ▸ hend))
      · exact Or.inr (Or.inr ⟨e', he', hse ▸ hend⟩)
    · have hends : ∀ e ∈ ["che", "she"], e.toList.length = 3 ∧
          ∃ e' ∈ hisses, e.toList = e'.toList ++ ['e'] := by decide
      obtain ⟨hthree, e', he', hche⟩ := hends e he
      have hend : Ends e.toList w := ends_iff.mpr ⟨h, by omega⟩
      exact Or.inr (Or.inr ⟨e', he', hche ▸ hend⟩)
  · rintro ((rfl | rfl) | h | ⟨e, he, h⟩)
    · decide
    · decide
    · obtain ⟨hsuffix, hlength⟩ := ends_iff.mp h
      exact Or.inr (Or.inl ⟨hm, hlength, "ie", by decide, hsuffix⟩)
    · have hends : ∀ e ∈ hisses,
          (2 ≤ (e.toList ++ ['e']).length ∧
            ∃ e' ∈ ["ie", "se", "xe", "ze"], e'.toList = e.toList ++ ['e']) ∨
          3 ≤ (e.toList ++ ['e']).length ∧
            ∃ e' ∈ ["che", "she"], e'.toList = e.toList ++ ['e'] := by decide
      obtain ⟨hsuffix, hlength⟩ := ends_iff.mp h
      rcases hends e he with ⟨htwo, e', he', hse⟩ | ⟨hthree, e', he', hche⟩
      · exact Or.inr (Or.inl ⟨hm, by omega, e', he', hse ▸ hsuffix⟩)
      · exact Or.inr (Or.inr ⟨by omega, e', he', hche ▸ hsuffix⟩)

/-! ### Back to the word -/

theorem singularChars_irregular {p : List Char × List Char} (hp : p ∈ irregulars) :
    singularChars p.1 = p.2 := by
  have hsmall : ∀ p ∈ irregulars, p.1.all isSmallWordChar = true := by decide
  have hfind : ∀ p ∈ irregulars, irregulars.find? (fun w => w.1 = p.1) = some p := by
    decide
  have hp' : ∀ c ∈ p.1, isSmallWordChar c = true := List.all_eq_true.mp (hsmall p hp)
  rw [singularChars, lower_of_isSmallWordChar hp', hfind p hp]
  exact likeCase_of_isSmallWordChar hp'

theorem not_lost_irregular : ∀ p ∈ irregulars, ¬ Lost p.2 := by decide

theorem ends_of_irregulars : ∀ p ∈ irregulars,
    ¬ ['i', 'e', 's'] <:+ p.1 ∧ (∀ e ∈ hisses, ¬ e.toList ++ ['e', 's'] <:+ p.1) ∧
      (['s'] <:+ p.1 → p.1.dropLast = "indice".toList ∨ p.1.dropLast = "matrice".toList) := by
  decide

theorem singularChars_append_ies
    (hl : Text.lower (stem ++ ['i', 'e', 's']) = stem ++ ['i', 'e', 's']) (hn : stem ≠ []) :
    singularChars (stem ++ ['i', 'e', 's']) = stem ++ ['y'] := by
  refine singularChars_ies hl (fun p hp he => ?_) hn rfl
  exact (ends_of_irregulars p hp).1 ⟨stem, he.symm⟩

theorem singularChars_append_es_iff (hl : Text.lower (w ++ ['e', 's']) = w ++ ['e', 's'])
    (he : e ∈ hisses) (hw : w = stem ++ e.toList) :
    singularChars (w ++ ['e', 's']) = w ↔ ¬ Lost w := by
  subst hw
  rcases eq_or_ne stem [] with rfl | hn
  · have hlost : ∀ e ∈ hisses,
        singularChars (e.toList ++ ['e', 's']) ≠ e.toList ∧ Lost e.toList := by decide
    simp [hlost e he]
  have hw : e.toList <:+ stem ++ e.toList := List.suffix_append _ _
  have hi : ∀ p ∈ irregulars, p.1 ≠ stem ++ e.toList ++ ['e', 's'] := by
    intro p hp h
    exact (ends_of_irregulars p hp).2.1 e he ⟨stem, by rw [h, List.append_assoc]⟩
  have hies : ¬ Ends ['i', 'e', 's'] (stem ++ e.toList ++ ['e', 's']) := by
    rw [show ['i', 'e', 's'] = ['i'] ++ ['e', 's'] from rfl, ends_append, ends_iff]
    exact fun h => not_suffix_of_hiss (by decide) he hw h.1
  have hback := singularChars_es hl hi hies ⟨e, he, stem, hn, List.append_assoc ..⟩
  rw [List.length_append, List.length_cons, List.length_cons, List.length_nil, Nat.add_sub_cancel,
    List.take_left] at hback
  exact iff_of_true hback (not_lost_hiss hn he)

theorem singularChars_append_s_iff (hl : Text.lower (w ++ ['s']) = w ++ ['s']) (hn : w ≠ [])
    (hm : w ≠ "mouse".toList) (hw : ∀ e ∈ hisses, ¬ e.toList <:+ w) :
    singularChars (w ++ ['s']) = w ↔ ¬ Lost w := by
  by_cases hirregular : w = "indice".toList ∨ w = "matrice".toList
  · rcases hirregular with rfl | rfl <;> decide
  have hi : ∀ p ∈ irregulars, p.1 ≠ w ++ ['s'] := by
    intro p hp h
    have hs := (ends_of_irregulars p hp).2.2 ⟨w, h.symm⟩
    rw [h, List.dropLast_concat] at hs
    exact hirregular hs
  rw [lost_iff_of_regular hm hw]
  have hies : Ends (['i', 'e'] ++ ['s']) (w ++ ['s']) ↔ Ends ['i', 'e'] w := ends_append
  have hes : (∃ e ∈ hisses, Ends (e.toList ++ ['e', 's']) (w ++ ['s'])) ↔
      ∃ e ∈ hisses, Ends (e.toList ++ ['e']) w := by
    refine exists_congr fun e => and_congr_right fun _ => ?_
    have h : Ends (e.toList ++ ['e'] ++ ['s']) (w ++ ['s']) ↔ Ends (e.toList ++ ['e']) w :=
      ends_append
    rwa [List.append_assoc] at h
  by_cases hie : Ends ['i', 'e'] w
  · have hback : singularChars (w ++ ['s']) ≠ w := by
      obtain ⟨stem, hs, rfl⟩ := hie
      rw [singularChars_ies hl hi hs (List.append_assoc ..)]
      simp
    simp [hback, hie]
  by_cases hse : ∃ e ∈ hisses, Ends (e.toList ++ ['e']) w
  · have hback : singularChars (w ++ ['s']) ≠ w := by
      intro h
      have hlength := congrArg List.length h
      rw [singularChars_es hl hi (hies.not.mpr hie) (hes.mpr hse), List.length_take,
        List.length_append, List.length_singleton] at hlength
      have := List.length_pos_iff.mpr hn
      omega
    exact iff_of_false hback (not_not.mpr (Or.inr (Or.inr hse)))
  · have hback := singularChars_s hl hi (hies.not.mpr hie) (hes.not.mpr hse) hn rfl
      (hw "s" (by decide))
    refine iff_of_true hback ?_
    rintro (h | h | h)
    · exact hirregular h
    · exact hie h
    · exact hse h

/-- The plural of a word in small letters leads back to the word if and only if the word is not
lost. -/
theorem singularize_pluralize_iff {w : String} (hn : w ≠ "")
    (h : ∀ c ∈ w.toList, isSmallWordChar c = true) :
    singularize (pluralize w) = w ↔ ¬ Lost w.toList := by
  have hn' : w.toList ≠ [] := by simpa using hn
  rw [← String.toList_inj, singularize, pluralize, String.toList_ofList, String.toList_ofList]
  generalize w.toList = w at h hn'
  have hlower {ending : List Char} (he : ending.all isSmallWordChar = true) {cs : List Char}
      (hcs : ∀ c ∈ cs, isSmallWordChar c = true) : Text.lower (cs ++ ending) = cs ++ ending :=
    lower_of_isSmallWordChar (List.forall_mem_append.mpr ⟨hcs, List.all_eq_true.mp he⟩)
  have hplural := pluralOf_pluralChars h
  generalize pluralChars w = p at hplural
  cases hplural with
  | irregular hp => exact iff_of_true (singularChars_irregular hp) (not_lost_irregular _ hp)
  | ies hs hw =>
    subst hw
    have hback := singularChars_append_ies (hlower (by decide) (List.forall_mem_append.mp h).1) hs
    exact iff_of_true hback not_lost_y
  | es he hw =>
    obtain ⟨stem, hw⟩ := hw
    exact singularChars_append_es_iff (hlower (by decide) h) he hw.symm
  | s hi hw =>
    refine singularChars_append_s_iff (hlower (by decide) h) hn' ?_ hw
    rintro rfl
    exact hi "mice".toList (by decide)

theorem singularize_pluralize_iff_story : "story" ≠ "" ∧
    (∀ c ∈ "story".toList, isSmallWordChar c = true) ∧ singularize (pluralize "story") = "story" ∧
    singularize (pluralize "house") ≠ "house" := by
  have hstory : ∀ c ∈ "story".toList, isSmallWordChar c = true := List.all_eq_true.mp (by decide)
  have hhouse : ∀ c ∈ "house".toList, isSmallWordChar c = true := List.all_eq_true.mp (by decide)
  refine ⟨by decide, hstory, (singularize_pluralize_iff (by decide) hstory).mpr (by decide), ?_⟩
  intro h
  exact (singularize_pluralize_iff (by decide) hhouse).mp h (by decide)

theorem singularize_pluralize_mouse : (∀ c ∈ "mouse".toList, isSmallWordChar c = true) ∧
    3 ≤ "mouse".toList.length ∧ "se".toList <:+ "mouse".toList ∧
    singularize (pluralize "mouse") = "mouse" :=
  ⟨List.all_eq_true.mp (by decide), by decide, by decide, by decide⟩

end Scaffold.Name
