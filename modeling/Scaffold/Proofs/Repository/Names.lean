import Scaffold.Proofs.Name.Respelling
import Scaffold.Proofs.Template.Identifiers

/-! # The names of a repository and its entity

The entity of a repository is named like it without the suffix. The suffix is dropped from the name
in whatever case it stands there, and is added behind the words of the name unless these end with it
as it is spelled. The two names differ by the suffix when both look-ups find it, or neither does.
-/

namespace Scaffold

namespace Name

variable {head : Bool} {c : Char} {cs stem low : List Char}

theorem pascalChars_eq_runTogether (h : ∀ d ∈ cs, isWordChar d = true) :
    pascalChars cs = runTogether true cs := by
  rw [pascalChars_eq h, runTogether_true h]
  cases hb : bare cs with
  | nil => rfl
  | cons c t =>
    have hc : isWordChar c = true := h c (mem_of_mem_bare (by simp [hb]))
    rw [List.modifyHead_cons, (cased hc).toUpper_toUpper]

theorem exists_runTogether_append (head : Bool) (cs : List Char) :
    ∃ b, ∀ ds, runTogether head (cs ++ ds) = runTogether head cs ++ runTogether b ds := by
  induction cs generalizing head with
  | nil => exact ⟨head, fun ds => rfl⟩
  | cons c cs ih =>
    by_cases hc : isSeparator c = true
    · obtain ⟨b, hb⟩ := ih true
      refine ⟨b, fun ds => ?_⟩
      rw [List.cons_append, runTogether, if_pos hc, runTogether, if_pos hc, hb]
    · obtain ⟨b, hb⟩ := ih false
      refine ⟨b, fun ds => ?_⟩
      rw [List.cons_append, runTogether, if_neg hc, runTogether, if_neg hc, hb, List.append_assoc]

theorem runTogether_replicate (head : Bool) (k : ℕ) :
    runTogether head (List.replicate k '_') = [] := by
  induction k generalizing head with
  | zero => rfl
  | succ k ih => exact ih true

theorem runTogether_eq_nil (h : ∀ d ∈ cs, isWordChar d = true) (he : runTogether head cs = []) :
    ∃ k, cs = List.replicate k '_' := by
  induction cs generalizing head with
  | nil => exact ⟨0, rfl⟩
  | cons c cs ih =>
    obtain ⟨hc, hcs⟩ := List.forall_mem_cons.mp h
    by_cases hu : c = '_'
    · subst hu
      obtain ⟨k, rfl⟩ := ih hcs he
      exact ⟨k + 1, rfl⟩
    · rw [runTogether_of_ne hc hu] at he
      cases he

/-- Behind a separator stands a capital, so a run of small letters has none in it. -/
theorem eq_of_runTogether_false (h : ∀ d ∈ cs, isWordChar d = true)
    (hlow : ∀ d ∈ low, d.toUpper ≠ d) (he : runTogether false cs = low) :
    ∃ k, cs = low ++ List.replicate k '_' := by
  induction cs generalizing low with
  | nil =>
    subst he
    exact ⟨0, rfl⟩
  | cons c cs ih =>
    obtain ⟨hc, hcs⟩ := List.forall_mem_cons.mp h
    by_cases hu : c = '_'
    · subst hu
      change runTogether true cs = low at he
      cases low with
      | nil =>
        obtain ⟨k, rfl⟩ := runTogether_eq_nil hcs he
        exact ⟨k + 1, rfl⟩
      | cons d low =>
        rw [runTogether_true hcs] at he
        cases hb : bare cs with
        | nil =>
          rw [hb] at he
          cases he
        | cons b t =>
          rw [hb] at he
          obtain ⟨rfl, -⟩ := List.cons.inj he
          have hb : isWordChar b = true := hcs b (mem_of_mem_bare (by simp [hb]))
          exact absurd (cased hb).toUpper_toUpper (hlow _ List.mem_cons_self)
    · rw [runTogether_of_ne hc hu] at he
      subst he
      obtain ⟨k, hk⟩ := ih hcs (fun d hd => hlow d (List.mem_cons_of_mem _ hd)) rfl
      exact ⟨k, by rw [if_neg Bool.false_ne_true, List.cons_append, ← hk]⟩

/-- Words that end with a letter and small ones behind it do so in the name, but for underscores at
its end. The letter is the same there, or starts a word. -/
theorem ends_of_runTogether (h : ∀ d ∈ cs, isWordChar d = true) (hlow : ∀ d ∈ low, d.toUpper ≠ d)
    (he : runTogether head cs = stem ++ c :: low) :
    ∃ pre d k, cs = pre ++ d :: low ++ List.replicate k '_' ∧
      (d = c ∨ d.toUpper = c ∧ (pre = [] ∧ head = true ∨ ∃ pre', pre = pre' ++ ['_'])) := by
  induction cs generalizing head stem with
  | nil =>
    rw [runTogether] at he
    cases stem <;> cases he
  | cons a cs ih =>
    obtain ⟨ha, hcs⟩ := List.forall_mem_cons.mp h
    by_cases hu : a = '_'
    · subst hu
      obtain ⟨pre, d, k, rfl, hd⟩ := ih hcs he
      refine ⟨'_' :: pre, d, k, rfl, hd.imp_right ?_⟩
      rintro ⟨hup, ⟨rfl, -⟩ | ⟨pre', rfl⟩⟩
      · exact ⟨hup, Or.inr ⟨[], rfl⟩⟩
      · exact ⟨hup, Or.inr ⟨'_' :: pre', rfl⟩⟩
    · rw [runTogether_of_ne ha hu] at he
      cases stem with
      | nil =>
        obtain ⟨hac, hrest⟩ := List.cons.inj he
        obtain ⟨k, rfl⟩ := eq_of_runTogether_false hcs hlow hrest
        refine ⟨[], a, k, rfl, ?_⟩
        cases head with
        | true => exact Or.inr ⟨hac, Or.inl ⟨rfl, rfl⟩⟩
        | false => exact Or.inl hac
      | cons s stem =>
        obtain ⟨-, hrest⟩ := List.cons.inj he
        obtain ⟨pre, d, k, rfl, hd⟩ := ih hcs hrest
        refine ⟨a :: pre, d, k, rfl, hd.imp_right ?_⟩
        rintro ⟨hup, ⟨rfl, hf⟩ | ⟨pre', rfl⟩⟩
        · cases hf
        · exact ⟨hup, Or.inr ⟨a :: pre', rfl⟩⟩

theorem length_runTogether (h : ∀ d ∈ cs, isWordChar d = true) (hu : '_' ∉ cs) (head : Bool) :
    (runTogether head cs).length = cs.length := by
  induction cs generalizing head with
  | nil => rfl
  | cons c cs ih =>
    obtain ⟨hc, hcs⟩ := List.forall_mem_cons.mp h
    rw [List.mem_cons, not_or] at hu
    rw [runTogether_of_ne hc (Ne.symm hu.1), List.length_cons, ih hcs hu.2, List.length_cons]

theorem pascalChars_pascalChars (h : ∀ d ∈ cs, isWordChar d = true) :
    pascalChars (pascalChars cs) = pascalChars cs := by
  rw [pascalChars_eq_runTogether fun d => closed_isWordChar.pascalChars h,
    runTogether_pascalChars h, ← pascalChars_eq_runTogether h]

end Name

namespace Repository

open Name (isIdentifier isWordChar pascalChars runTogether)

variable {name : String} {names : Names} {cs stem word : List Char}

def HasSuffix (cs : List Char) : Prop :=
  ∃ stem word, cs = stem ++ word ∧ word.map Char.toLower = "repository".toList

/-- A text whose last word is the suffix, spelled with its capital or standing on its own.
Underscores behind it do not count. -/
inductive EndsInSuffix : List Char → Prop
  | spelled (stem : List Char) (k : ℕ) :
      EndsInSuffix (stem ++ "Repository".toList ++ List.replicate k '_')
  | word (stem : List Char) (k : ℕ) :
      EndsInSuffix (stem ++ "_repository".toList ++ List.replicate k '_')
  | whole (k : ℕ) : EndsInSuffix ("repository".toList ++ List.replicate k '_')

/-! ### The suffix of the name -/

theorem lower_suffix : Text.lower suffix.toList = "repository".toList := by decide +kernel

theorem length_suffix : suffix.length = 10 := by decide

theorem dropSuffix_append (h : ∀ d ∈ word, isWordChar d = true)
    (hw : word.map Char.toLower = "repository".toList) : dropSuffix (stem ++ word) = stem := by
  have hlength : word.length = suffix.length := by
    rw [← List.length_map, hw]
    decide
  have hlower : Text.lower word = "repository".toList := by
    rw [Text.lower, Text.lowerFrom_of_ascii fun c hc => Name.lt_of_isWordChar (h c hc), hw]
  have hcut : (stem ++ word).length - suffix.length = stem.length := by
    rw [List.length_append, hlength, Nat.add_sub_cancel]
  unfold dropSuffix
  dsimp only
  rw [hcut, List.drop_left, List.take_left, hlower, lower_suffix, if_pos rfl]

theorem dropSuffix_of_not_hasSuffix (h : ∀ d ∈ cs, isWordChar d = true) (hs : ¬ HasSuffix cs) :
    dropSuffix cs = cs := by
  unfold dropSuffix
  dsimp only
  rw [if_neg]
  intro he
  rw [lower_suffix, Text.lower, Text.lowerFrom_of_ascii fun c hc =>
    Name.lt_of_isWordChar (h c (List.mem_of_mem_drop hc))] at he
  exact hs ⟨_, _, (List.take_append_drop _ cs).symm, he⟩

/-- The suffix in whatever case makes ten letters of the name with capitals. -/
theorem pascalChars_append (h : ∀ d ∈ stem ++ word, isWordChar d = true)
    (hw : word.map Char.toLower = "repository".toList) :
    ∃ tail, pascalChars (stem ++ word) = pascalChars stem ++ tail ∧
      tail.length = suffix.length := by
  obtain ⟨hstem, hword⟩ := List.forall_mem_append.mp h
  obtain ⟨b, hb⟩ := Name.exists_runTogether_append true stem
  have hu : '_' ∉ word := by
    intro hm
    have hlow : '_'.toLower ∈ word.map Char.toLower := List.mem_map_of_mem hm
    rw [hw] at hlow
    exact absurd hlow (by decide)
  refine ⟨runTogether b word, ?_, ?_⟩
  · rw [Name.pascalChars_eq_runTogether h, hb, Name.pascalChars_eq_runTogether hstem]
  · rw [Name.length_runTogether hword hu, ← List.length_map, hw]
    decide

/-! ### The suffix of the name with capitals -/

theorem small_epository : ∀ d ∈ "epository".toList, d.toUpper ≠ d := by
  have hall : "epository".toList.all (fun d => d.toUpper != d) = true := by decide
  exact fun d hd => bne_iff_ne.mp (List.all_eq_true.mp hall d hd)

theorem eq_of_toUpper {d : Char} (hw : isWordChar d = true) (h : d.toUpper = 'R') :
    d = 'R' ∨ d = 'r' :=
  Name.forall_wordChar (fun d => d.toUpper = 'R' → d = 'R' ∨ d = 'r') (by decide +kernel) hw h

theorem endsInSuffix_of_pascalChars (h : ∀ d ∈ cs, isWordChar d = true)
    (he : pascalChars cs = stem ++ suffix.toList) : EndsInSuffix cs := by
  rw [Name.pascalChars_eq_runTogether h] at he
  obtain ⟨pre, d, k, rfl, hd⟩ := Name.ends_of_runTogether h small_epository he
  have hw : isWordChar d = true := h d (by simp)
  rcases hd with rfl | ⟨hup, hpre⟩
  · exact EndsInSuffix.spelled pre k
  rcases eq_of_toUpper hw hup with rfl | rfl
  · exact EndsInSuffix.spelled pre k
  rcases hpre with ⟨rfl, -⟩ | ⟨pre, rfl⟩
  · exact EndsInSuffix.whole k
  · rw [List.append_assoc pre]
    exact EndsInSuffix.word pre k

theorem exists_runTogether_eq {w : List Char} (hw : ∀ b, runTogether b w = suffix.toList)
    (stem : List Char) (k : ℕ) : ∃ stem',
      runTogether true (stem ++ w ++ List.replicate k '_') = stem' ++ suffix.toList := by
  obtain ⟨b, hb⟩ := Name.exists_runTogether_append true stem
  obtain ⟨b', hb'⟩ := Name.exists_runTogether_append b w
  refine ⟨runTogether true stem, ?_⟩
  rw [List.append_assoc, hb, hb', Name.runTogether_replicate, List.append_nil, hw]

theorem exists_pascalChars_eq_iff (h : ∀ d ∈ cs, isWordChar d = true) :
    (∃ stem, pascalChars cs = stem ++ suffix.toList) ↔ EndsInSuffix cs := by
  constructor
  · rintro ⟨stem, he⟩
    exact endsInSuffix_of_pascalChars h he
  · intro he
    rw [Name.pascalChars_eq_runTogether h]
    cases he with
    | spelled stem k =>
      refine exists_runTogether_eq (fun b => ?_) stem k
      cases b <;> decide
    | word stem k =>
      refine exists_runTogether_eq (fun b => ?_) stem k
      cases b <;> decide
    | whole k =>
      obtain ⟨b, hb⟩ := Name.exists_runTogether_append true "repository".toList
      refine ⟨[], ?_⟩
      rw [hb, Name.runTogether_replicate]
      decide

/-! ### The names of a repository and its entity -/

theorem toList_suffixed (s : String) : ∃ stem, (suffixed s).toList = stem ++ suffix.toList := by
  unfold suffixed
  split
  · rename_i hs
    obtain ⟨stem, hs⟩ := Option.isSome_iff_exists.mp hs
    exact ⟨stem, Text.before?_eq_some.mp hs⟩
  · exact ⟨s.toList, String.toList_append⟩

theorem suffixed_of_endsInSuffix (h : ∀ d ∈ name.toList, isWordChar d = true)
    (he : EndsInSuffix name.toList) : suffixed (Name.pascal name) = Name.pascal name := by
  obtain ⟨stem, hs⟩ := (exists_pascalChars_eq_iff h).mpr he
  unfold suffixed
  rw [if_pos]
  apply Option.isSome_iff_exists.mpr
  refine ⟨stem, Text.before?_eq_some.mpr ?_⟩
  rw [Name.pascal, String.toList_ofList, hs]

theorem suffixed_of_not_endsInSuffix (h : ∀ d ∈ name.toList, isWordChar d = true)
    (he : ¬ EndsInSuffix name.toList) :
    suffixed (Name.pascal name) = Name.pascal name ++ suffix := by
  unfold suffixed
  rw [if_neg]
  intro hs
  obtain ⟨stem, hs⟩ := Option.isSome_iff_exists.mp hs
  rw [Text.before?_eq_some, Name.pascal, String.toList_ofList] at hs
  exact he (endsInSuffix_of_pascalChars h hs)

theorem ne_append_suffix (s : String) : s ≠ s ++ suffix := by
  intro he
  have hlength := congrArg String.length he
  rw [String.length_append, length_suffix] at hlength
  omega

/-- What stands before the suffix is the entity if both look-ups find the suffix, or neither. -/
theorem suffixed_eq_append_iff (h : ∀ d ∈ name.toList, isWordChar d = true) :
    suffixed (Name.pascal name) = Name.pascal (entityName name none) ++ suffix ↔
      (HasSuffix name.toList ↔ EndsInSuffix name.toList) := by
  have hentity : entityName name none = String.ofList (dropSuffix name.toList) := rfl
  by_cases hs : HasSuffix name.toList
  · obtain ⟨stem, word, hname, hw⟩ := hs
    rw [hname] at h
    obtain ⟨tail, htail, hlength⟩ := pascalChars_append h hw
    have hstem : (Name.pascal (entityName name none)).toList = pascalChars stem := by
      rw [hentity, hname, dropSuffix_append (List.forall_mem_append.mp h).2 hw, Name.pascal,
        String.toList_ofList, String.toList_ofList]
    have hpascal : (Name.pascal name).toList = pascalChars stem ++ tail := by
      rw [Name.pascal, String.toList_ofList, hname, htail]
    rw [← hname] at h
    by_cases he : EndsInSuffix name.toList
    · refine iff_of_true ?_ (iff_of_true ⟨stem, word, hname, hw⟩ he)
      obtain ⟨stem', hends⟩ := (exists_pascalChars_eq_iff h).mpr he
      rw [hname, htail] at hends
      obtain ⟨-, rfl⟩ := List.append_inj' hends (by rw [hlength, String.length_toList])
      rw [suffixed_of_endsInSuffix h he, ← String.toList_inj, String.toList_append, hstem, hpascal]
    · refine iff_of_false ?_ fun hi => he (hi.mp ⟨stem, word, hname, hw⟩)
      intro hfit
      -- The ten letters stay in front of the suffix that is added.
      rw [suffixed_of_not_endsInSuffix h he, ← String.toList_inj, String.toList_append,
        String.toList_append, hstem, hpascal] at hfit
      have hlong := congrArg List.length (List.append_cancel_right hfit)
      rw [List.length_append, hlength, length_suffix] at hlong
      omega
  · have hwhole : entityName name none = name := by
      rw [hentity, dropSuffix_of_not_hasSuffix h hs, String.ofList_toList]
    rw [hwhole]
    by_cases he : EndsInSuffix name.toList
    · rw [suffixed_of_endsInSuffix h he]
      exact iff_of_false (ne_append_suffix _) fun hi => hs (hi.mpr he)
    · rw [suffixed_of_not_endsInSuffix h he]
      exact iff_of_true rfl (iff_of_false hs he)

theorem pascalChars_append_suffix (h : ∀ d ∈ cs, isWordChar d = true) :
    pascalChars (cs ++ suffix.toList) = pascalChars cs ++ suffix.toList := by
  have hsuffix : ∀ d ∈ suffix.toList, isWordChar d = true :=
    List.all_eq_true.mp (by decide)
  obtain ⟨b, hb⟩ := Name.exists_runTogether_append true cs
  rw [Name.pascalChars_eq_runTogether (List.forall_mem_append.mpr ⟨h, hsuffix⟩), hb,
    Name.pascalChars_eq_runTogether h, List.append_cancel_left_eq]
  cases b <;> decide

theorem pascal_suffixed (h : ∀ d ∈ name.toList, isWordChar d = true) :
    Name.pascal (suffixed (Name.pascal name)) = suffixed (Name.pascal name) := by
  have hpascal : ∀ d ∈ pascalChars name.toList, isWordChar d = true := fun d =>
    Name.closed_isWordChar.pascalChars h
  by_cases he : EndsInSuffix name.toList
  · rw [suffixed_of_endsInSuffix h he, Name.pascal, Name.pascal, String.toList_ofList,
      Name.pascalChars_pascalChars h]
  · rw [suffixed_of_not_endsInSuffix h he, ← String.toList_inj, Name.pascal, String.toList_ofList,
      String.toList_append, Name.pascal, String.toList_ofList, pascalChars_append_suffix hpascal,
      Name.pascalChars_pascalChars h]

theorem isWordChar_suffixed (h : ∀ d ∈ name.toList, isWordChar d = true) :
    ∀ d ∈ (suffixed (Name.pascal name)).toList, isWordChar d = true := by
  have hpascal : ∀ d ∈ (Name.pascal name).toList, isWordChar d = true := by
    rw [Name.pascal, String.toList_ofList]
    exact fun d => Name.closed_isWordChar.pascalChars h
  have hsuffix : ∀ d ∈ suffix.toList, isWordChar d = true :=
    List.all_eq_true.mp (by decide)
  by_cases he : EndsInSuffix name.toList
  · rw [suffixed_of_endsInSuffix h he]
    exact hpascal
  · rw [suffixed_of_not_endsInSuffix h he, String.toList_append]
    exact List.forall_mem_append.mpr ⟨hpascal, hsuffix⟩

theorem exists_suffixed_eq_append (h : ∀ d ∈ name.toList, isWordChar d = true) :
    ∃ stem, suffixed (Name.pascal name) = stem ++ suffix ∧
      entityName (suffixed (Name.pascal name)) none = stem ∧ Name.pascal stem = stem := by
  obtain ⟨stem, hs⟩ := toList_suffixed (Name.pascal name)
  have hword := isWordChar_suffixed h
  rw [hs] at hword
  obtain ⟨hstem, hsuffix⟩ := List.forall_mem_append.mp hword
  refine ⟨String.ofList stem, ?_, ?_, ?_⟩
  · rw [← String.toList_inj, hs, String.toList_append, String.toList_ofList]
  · change String.ofList (dropSuffix (suffixed (Name.pascal name)).toList) = _
    rw [hs, dropSuffix_append hsuffix (by decide)]
  · have hpascal := congrArg String.toList (pascal_suffixed h)
    rw [Name.pascal, String.toList_ofList, hs, pascalChars_append_suffix hstem] at hpascal
    rw [Name.pascal, String.toList_ofList, List.append_cancel_right hpascal]

theorem suffixed_append_suffix (s : String) : suffixed (s ++ suffix) = s ++ suffix := by
  rw [suffixed, if_pos]
  apply Option.isSome_iff_exists.mpr
  exact ⟨s.toList, Text.before?_eq_some.mpr String.toList_append⟩

theorem ofName_eq_ok {entity : Option String} (hn : isIdentifier name.toList = true)
    (he : isIdentifier (entityName name entity).toList = true) :
    Names.ofName name entity =
      .ok ⟨suffixed (Name.pascal name), Name.pascal (entityName name entity)⟩ :=
  check_bind_eq_ok.mpr ⟨Name.checkIdentifier_eq_ok.mpr hn,
    check_bind_eq_ok.mpr ⟨Name.checkIdentifier_eq_ok.mpr he, rfl⟩⟩

/-- A repository is named like its entity with the suffix if its name ends with the suffix in the
one way of looking and in the other, or in neither. Only then does its name lead to the same entity
again. -/
theorem names_fit_iff (h : Names.ofName name none = .ok names) :
    (names.repository = names.entity ++ suffix ↔
      (HasSuffix name.toList ↔ EndsInSuffix name.toList)) ∧
    (isIdentifier names.entity.toList = true →
      (Names.ofName names.repository none = .ok names ↔
        (HasSuffix name.toList ↔ EndsInSuffix name.toList))) := by
  obtain ⟨hname, -, hnames⟩ := Names.exists_of_ofName h
  have hword : ∀ d ∈ name.toList, isWordChar d = true := fun d => Name.isWordChar_of_mem hname
  obtain ⟨stem, hstem, hentity, hpascal⟩ := exists_suffixed_eq_append hword
  have hfit := suffixed_eq_append_iff hword
  obtain ⟨repository, entity⟩ := names
  obtain ⟨hr, he⟩ := Names.mk.inj hnames
  rw [← hr, ← he] at hfit
  rw [← hr] at hstem hentity
  refine ⟨hfit, fun hi => ?_⟩
  dsimp only at hi ⊢
  rw [← hfit, hstem, String.append_left_inj]
  rw [hstem] at hentity
  constructor
  · intro hok
    obtain ⟨-, -, hagain⟩ := Names.exists_of_ofName hok
    rw [(Names.mk.inj hagain).2, hentity, hpascal]
  · rintro rfl
    have hrepository : isIdentifier (stem ++ suffix).toList = true := by
      rw [String.toList_append]
      exact Name.isIdentifier_append_left hi (List.all_eq_true.mp (by decide))
    have hsame := pascal_suffixed hword
    rw [← hr, hstem] at hsame
    have hagain : isIdentifier (entityName (stem ++ suffix) none).toList = true := by
      rw [hentity]
      exact hi
    rw [ofName_eq_ok hrepository hagain, hentity, hpascal, hsame, suffixed_append_suffix]

theorem names_fit_iff_mealRepository :
    Names.ofName "meal_repository" none = .ok ⟨"MealRepository", "Meal"⟩ ∧
    isIdentifier "Meal".toList = true ∧ "MealRepository" = "Meal" ++ suffix ∧
    Names.ofName "MealRepository" none = .ok ⟨"MealRepository", "Meal"⟩ := by
  have hok : Names.ofName "meal_repository" none = .ok ⟨"MealRepository", "Meal"⟩ := by
    decide +kernel
  have hi : isIdentifier "Meal".toList = true := by decide
  obtain ⟨hfit, hagain⟩ := names_fit_iff hok
  have hsuffix : HasSuffix "meal_repository".toList :=
    ⟨"meal_".toList, "repository".toList, by decide⟩
  have hends : EndsInSuffix "meal_repository".toList := EndsInSuffix.word "meal".toList 0
  have hboth := iff_of_true hsuffix hends
  exact ⟨hok, hi, hfit.mpr hboth, (hagain hi).mpr hboth⟩

/-- The suffix in small letters behind a word is dropped for the entity and added for the
repository. -/
theorem names_differ :
    Names.ofName "userrepository" none = .ok ⟨"UserrepositoryRepository", "User"⟩ ∧
    isIdentifier "User".toList = true ∧ "UserrepositoryRepository" ≠ "User" ++ suffix ∧
    Names.ofName "UserrepositoryRepository" none ≠ .ok ⟨"UserrepositoryRepository", "User"⟩ := by
  refine ⟨?_, ?_, ?_, ?_⟩ <;> decide +kernel

end Repository

end Scaffold
