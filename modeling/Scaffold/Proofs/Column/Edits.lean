import Mathlib.Data.List.Perm.Basic
import Mathlib.Logic.Relation
import Scaffold.Proofs.Column.Rows
import Scaffold.Proofs.Text.Recasing

/-! # Edits that change no column

A column line can be written in many ways. Fields may be spaced out, blank columns left in between,
types and keywords put in another case or replaced by a synonym, keys repeated and modifiers
reordered: as long as the references stay in order and so do the defaults, the columns are the same.
-/

namespace Scaffold.Column

open Text (Recased trim)

namespace Modifier

variable {cs f g w w' arg : List Char} {m : Modifier} {ms ms' : List Modifier}
  {rest rest' : List (List Char)} {word : String} {c : Column}

/-! ### What modifiers say together -/

def reference? : Modifier → Option Reference
  | references table column => some ⟨some table, some column⟩
  | _ => none

def default? : Modifier → Option String
  | defaults value => some value
  | _ => none

/-- Keys are said once or not at all, and the last reference and the last default count. -/
theorem foldl_apply (c : Column) (ms : List Modifier) :
    ms.foldl apply c = { c with
      primaryKey := c.primaryKey || ms.contains primaryKey
      autoIncrement := c.autoIncrement || ms.contains autoIncrement
      nullable := c.nullable || ms.contains nullable
      reference := (ms.filterMap reference?).getLast?.or c.reference
      defaultValue := (ms.filterMap default?).getLast?.or c.defaultValue } := by
  induction ms generalizing c with
  | nil => simp
  | cons m ms ih =>
    rw [List.foldl_cons, ih]
    cases m <;> simp [apply, reference?, default?, List.getLast?_cons]

structure SameEffect (ms ms' : List Modifier) : Prop where
  keys : ∀ m ∈ [primaryKey, autoIncrement, nullable], m ∈ ms ↔ m ∈ ms'
  reference : (ms.filterMap reference?).getLast? = (ms'.filterMap reference?).getLast?
  default : (ms.filterMap default?).getLast? = (ms'.filterMap default?).getLast?

theorem SameEffect.foldl_eq (h : SameEffect ms ms') (c : Column) :
    ms.foldl apply c = ms'.foldl apply c := by
  have hkey : ∀ m ∈ [primaryKey, autoIncrement, nullable], ms.contains m = ms'.contains m := by
    intro m hm
    rw [Bool.eq_iff_iff, List.contains_iff_mem, List.contains_iff_mem, h.keys m hm]
  rw [foldl_apply, foldl_apply, hkey primaryKey (by simp), hkey autoIncrement (by simp),
    hkey nullable (by simp), h.reference, h.default]

/-! ### Fields -/

def read? (cs : List Char) : Option Modifier := (ofChars "" cs).toOption

theorem read?_eq_some : read? cs = some m ↔ Reads cs m := by
  rw [read?, toOption_eq_some, ofChars_eq_ok]

theorem forall₂_reads_iff : List.Forall₂ Reads rest ms ↔
    (∀ f ∈ rest, (read? f).isSome = true) ∧ rest.filterMap read? = ms := by
  induction rest generalizing ms with
  | nil =>
    rw [List.forall₂_nil_left_iff, List.filterMap_nil]
    exact ⟨fun h => ⟨by simp, h.symm⟩, fun h => h.2.symm⟩
  | cons f rest ih =>
    rw [List.forall₂_cons_left_iff, List.forall_mem_cons]
    constructor
    · rintro ⟨m, ms, hm, hms, rfl⟩
      obtain ⟨hsome, rfl⟩ := ih.mp hms
      rw [← read?_eq_some] at hm
      exact ⟨⟨by rw [hm]; rfl, hsome⟩, List.filterMap_cons_some hm⟩
    · rintro ⟨⟨hf, hsome⟩, he⟩
      obtain ⟨m, hm⟩ := Option.isSome_iff_exists.mp hf
      rw [List.filterMap_cons_some hm] at he
      exact ⟨m, _, read?_eq_some.mp hm, ih.mpr ⟨hsome, rfl⟩, he.symm⟩

def keywords : Modifier → List String
  | primaryKey => primaryKeyWords
  | autoIncrement => autoIncrementWords
  | nullable => nullableWords
  | _ => []

/-- A field that is a keyword of a modifier, in any case and with blanks around it. -/
def Says (m : Modifier) (f : List Char) : Prop := String.ofList (Text.lower (trim f)) ∈ m.keywords

/-- Whether a field is a word with an argument in brackets, with blanks around it. -/
def calls (word : String) (f : List Char) : Bool := (argument? word (trim f)).isSome

/-- Lists of fields that say the same of a column. -/
inductive Restates : List (List Char) → List (List Char) → Prop
  /-- A keyword is put in another case. -/
  | keyword {pre post : List (List Char)} {f g : List Char} {m : Modifier} (hf : Says m f)
      (h : Recased f g) : Restates (pre ++ f :: post) (pre ++ g :: post)
  /-- The word in front of an argument is put in another case. -/
  | word {pre post : List (List Char)} {lead tail w w' arg : List Char} (hl : Gap lead)
      (ht : Gap tail) (hw : Spells "fk" w ∨ Spells "default" w) (h : Recased w w') :
      Restates (pre ++ (lead ++ call w arg ++ tail) :: post)
        (pre ++ (lead ++ call w' arg ++ tail) :: post)
  /-- A keyword is replaced by another one for the same modifier. -/
  | synonym {pre post : List (List Char)} {f g : List Char} {m : Modifier} (hf : Says m f)
      (hg : Says m g) : Restates (pre ++ f :: post) (pre ++ g :: post)
  /-- What a keyword says already is said again. -/
  | repeated {pre post : List (List Char)} {f g : List Char} {m : Modifier} (hm : f ∈ pre ++ post)
      (hf : Says m f) (hg : Says m g) : Restates (pre ++ post) (pre ++ g :: post)
  /-- Fields change places, but not references among themselves, nor defaults. -/
  | permuted {fs gs : List (List Char)} (hp : fs.Perm gs)
      (hr : fs.filter (calls "fk") = gs.filter (calls "fk"))
      (hd : fs.filter (calls "default") = gs.filter (calls "default")) : Restates fs gs
  /-- A reference in front of another one is left out, or a default in front of another one. -/
  | overridden {pre mid post : List (List Char)} {f g : List Char} {word : String}
      (hw : word = "fk" ∨ word = "default") (hf : calls word f = true) (hg : calls word g = true)
      (hr : ∃ m, Reads (trim f) m) :
      Restates (pre ++ f :: (mid ++ g :: post)) (pre ++ (mid ++ g :: post))

/-- What a field says, whatever the blanks around it. -/
def said? (f : List Char) : Option Modifier := read? (trim f)

theorem Says.said? (h : Says m f) : said? f = some m := by
  rw [Modifier.said?, read?_eq_some]
  cases m with
  | primaryKey => exact .primaryKey h
  | autoIncrement => exact .autoIncrement h
  | nullable => exact .nullable h
  | references | defaults => cases h

theorem Says.mem_keys (h : Says m f) : m ∈ [primaryKey, autoIncrement, nullable] := by
  cases m with
  | primaryKey | autoIncrement | nullable => simp
  | references | defaults => cases h

theorem Says.recased (h : Says m f) (hr : Recased f g) : Says m g := by
  rw [Says, ← hr.trim.lower_eq]
  exact h

theorem Spells.recased (h : Spells word w) (hr : Recased w w') : Spells word w' := by
  unfold Spells at h ⊢
  generalize word.toList = ws at h
  induction h generalizing w' with
  | nil =>
    rw [hr.eq_nil_iff.mp rfl]
    exact .nil
  | @cons a c ws w hc _ ih =>
    cases w' with
    | nil => cases hr
    | cons d w' =>
      obtain ⟨hd, hr⟩ := List.cons.inj hr
      refine .cons ?_ (ih hr)
      rw [← (Text.caseless d).small, ← hd, (Text.caseless c).small, hc]

theorem argument?_default_of_fk (hw : Spells "fk" w) : argument? "default" (call w arg) = none := by
  rw [Option.eq_none_iff_forall_ne_some]
  intro a ha
  obtain ⟨v, hv, he⟩ := argument?_eq_some.mp ha
  have hnone : argument? "fk" (call v a) = none := argument?_fk_of_default hv
  rw [← he, argument?_call hw] at hnone
  cases hnone

theorem Reads.recased (hw : Spells "fk" w ∨ Spells "default" w) (hr : Recased w w')
    (h : Reads (call w arg) m) : Reads (call w' arg) m := by
  obtain ⟨hp, ha, hk⟩ := call_not_keyword w arg
  generalize he : call w arg = cs at h
  cases h with
  | primaryKey h => exact absurd (he ▸ h) hp
  | autoIncrement h => exact absurd (he ▸ h) ha
  | nullable h => exact absurd (he ▸ h) hk
  | @references v path hv hn hb hpath =>
    have harg : argument? "fk" (call v path) = some path := argument?_call hv
    rw [← he] at harg
    rcases hw with hw | hw
    · rw [argument?_call hw] at harg
      cases harg
      exact .references (hw.recased hr) hn hb hpath
    · rw [argument?_fk_of_default hw] at harg
      cases harg
  | @defaults v value hv hn hl =>
    have harg : argument? "default" (call v value) = some value := argument?_call hv
    rw [← he] at harg
    rcases hw with hw | hw
    · rw [argument?_default_of_fk hw] at harg
      cases harg
    · rw [argument?_call hw] at harg
      cases harg
      exact .defaults (hw.recased hr) hn hl

theorem Spells.exists_cons (hw : Spells "fk" w ∨ Spells "default" w) :
    ∃ c t, w = c :: t ∧ Text.isBlank c = false := by
  rcases hw with hw | hw
  · obtain _ | ⟨hc, _⟩ := hw
    exact ⟨_, _, rfl, Text.isBlank_eq_false_of_lowerChar hc (by decide)⟩
  · obtain _ | ⟨hc, _⟩ := hw
    exact ⟨_, _, rfl, Text.isBlank_eq_false_of_lowerChar hc (by decide)⟩

theorem trim_call {lead tail : List Char} (hl : Gap lead) (ht : Gap tail)
    (hw : Spells "fk" w ∨ Spells "default" w) : trim (lead ++ call w arg ++ tail) = call w arg := by
  rw [List.append_assoc, Text.trim_blank_append _ hl, Text.trim_append_blank _ ht]
  apply Text.trim_of_trimmed
  obtain ⟨c, t, rfl, hc⟩ := Spells.exists_cons hw
  constructor
  · intro d hd
    rw [call, List.cons_append, List.cons_append, List.head?_cons, Option.mem_some_iff] at hd
    rwa [← hd]
  · intro d hd
    rw [call, List.getLast?_concat, Option.mem_some_iff] at hd
    rw [← hd]
    decide

theorem said?_call_recased {lead tail : List Char} (hl : Gap lead) (ht : Gap tail)
    (hw : Spells "fk" w ∨ Spells "default" w) (hr : Recased w w') :
    said? (lead ++ call w arg ++ tail) = said? (lead ++ call w' arg ++ tail) := by
  have hw' : Spells "fk" w' ∨ Spells "default" w' :=
    hw.imp (fun h => h.recased hr) fun h => h.recased hr
  rw [said?, said?, trim_call hl ht hw, trim_call hl ht hw']
  ext m
  rw [read?_eq_some, read?_eq_some]
  exact ⟨fun h => h.recased hw hr, fun h => h.recased hw' hr.symm⟩

/-! ### Restated fields -/

theorem sameEffect_of_eq (h : ms = ms') : SameEffect ms ms' := by
  subst h
  exact ⟨fun _ _ => Iff.rfl, rfl, rfl⟩

theorem filterMap_said?_replace {pre post : List (List Char)} (h : said? f = said? g) :
    (pre ++ f :: post).filterMap said? = (pre ++ g :: post).filterMap said? := by
  rw [List.filterMap_append, List.filterMap_append, List.filterMap_cons, List.filterMap_cons, h]

/-- A key that is said already adds nothing. -/
theorem sameEffect_repeated {pre post : List (List Char)} (hm : f ∈ pre ++ post) (hf : Says m f)
    (hg : Says m g) :
    SameEffect ((pre ++ post).filterMap said?) ((pre ++ g :: post).filterMap said?) := by
  have hmem : m ∈ (pre ++ post).filterMap said? := List.mem_filterMap.mpr ⟨f, hm, hf.said?⟩
  rw [List.filterMap_append] at hmem
  have hkey := hf.mem_keys
  have hreference : reference? m = none := by
    simp only [List.mem_cons, List.not_mem_nil, or_false] at hkey
    rcases hkey with rfl | rfl | rfl <;> rfl
  have hdefault : default? m = none := by
    simp only [List.mem_cons, List.not_mem_nil, or_false] at hkey
    rcases hkey with rfl | rfl | rfl <;> rfl
  rw [List.filterMap_append, List.filterMap_append, List.filterMap_cons_some hg.said?]
  refine ⟨fun k _ => ?_, ?_, ?_⟩
  · rw [List.mem_append, List.mem_append, List.mem_cons]
    constructor
    · rintro (h | h)
      · exact Or.inl h
      · exact Or.inr (Or.inr h)
    · rintro (h | rfl | h)
      · exact Or.inl h
      · exact List.mem_append.mp hmem
      · exact Or.inr h
  · rw [List.filterMap_append, List.filterMap_append, List.filterMap_cons_none hreference]
  · rw [List.filterMap_append, List.filterMap_append, List.filterMap_cons_none hdefault]

theorem argument?_of_keyword {word : String} {cs : List Char}
    (h : String.ofList (Text.lower cs) ∈ primaryKeyWords ∨
      String.ofList (Text.lower cs) ∈ autoIncrementWords ∨
      String.ofList (Text.lower cs) ∈ nullableWords) :
    argument? word cs = none := by
  rw [Option.eq_none_iff_forall_ne_some]
  intro arg ha
  obtain ⟨w, -, rfl⟩ := argument?_eq_some.mp ha
  obtain ⟨hprimary, hincrement, hnullable⟩ := call_not_keyword w arg
  rcases h with h | h | h
  · exact hprimary h
  · exact hincrement h
  · exact hnullable h

theorem Reads.isSome_argument? {cs : List Char} (h : Reads cs m) :
    ((argument? "fk" cs).isSome = true ↔ (reference? m).isSome = true) ∧
      ((argument? "default" cs).isSome = true ↔ (default? m).isSome = true) := by
  cases h with
  | references hw =>
    rw [argument?_call hw, argument?_default_of_fk hw]
    exact ⟨iff_of_true rfl rfl, iff_of_false nofun nofun⟩
  | defaults hw =>
    rw [argument?_fk_of_default hw, argument?_call hw]
    exact ⟨iff_of_false nofun nofun, iff_of_true rfl rfl⟩
  | primaryKey h =>
    rw [argument?_of_keyword (Or.inl h), argument?_of_keyword (Or.inl h)]
    exact ⟨iff_of_false nofun nofun, iff_of_false nofun nofun⟩
  | autoIncrement h =>
    rw [argument?_of_keyword (Or.inr (Or.inl h)), argument?_of_keyword (Or.inr (Or.inl h))]
    exact ⟨iff_of_false nofun nofun, iff_of_false nofun nofun⟩
  | nullable h =>
    rw [argument?_of_keyword (Or.inr (Or.inr h)), argument?_of_keyword (Or.inr (Or.inr h))]
    exact ⟨iff_of_false nofun nofun, iff_of_false nofun nofun⟩

theorem isSome_reference?_iff (hm : said? f = some m) :
    (reference? m).isSome = true ↔ calls "fk" f = true :=
  (read?_eq_some.mp hm).isSome_argument?.1.symm

theorem isSome_default?_iff (hm : said? f = some m) :
    (default? m).isSome = true ↔ calls "default" f = true :=
  (read?_eq_some.mp hm).isSome_argument?.2.symm

section Picked

variable {α : Type} {pick : Modifier → Option α} {pre mid post fs gs : List (List Char)}

def picked (pick : Modifier → Option α) (fs : List (List Char)) : List α :=
  (fs.filterMap said?).filterMap pick

theorem picked_append : picked pick (fs ++ gs) = picked pick fs ++ picked pick gs := by
  rw [picked, List.filterMap_append, List.filterMap_append, picked, picked]

theorem picked_cons_of_none (hm : said? f = some m) (hp : pick m = none) :
    picked pick (f :: fs) = picked pick fs := by
  rw [picked, List.filterMap_cons_some hm, List.filterMap_cons_none hp, picked]

/-- Only the fields of one form have a say on a matter. -/
theorem picked_filter {p : List Char → Bool}
    (hp : ∀ f m, said? f = some m → (pick m).isSome = true → p f = true) :
    picked pick (fs.filter p) = picked pick fs := by
  induction fs with
  | nil => rfl
  | cons f fs ih =>
    by_cases hf : p f = true
    · rw [List.filter_cons_of_pos hf, ← List.singleton_append, picked_append, ih, ← picked_append,
        List.singleton_append]
    · rw [List.filter_cons_of_neg hf, ih]
      cases hm : said? f with
      | none => rw [picked, picked, List.filterMap_cons_none hm]
      | some m =>
        have hnone : pick m = none := by
          rw [← Option.not_isSome_iff_eq_none]
          exact fun hs => hf (hp f m hm hs)
        rw [picked_cons_of_none hm hnone]

theorem getLast?_picked (hm : said? g = some m) (hp : (pick m).isSome = true) :
    (picked pick (pre ++ f :: (mid ++ g :: post))).getLast? =
      (picked pick (pre ++ (mid ++ g :: post))).getLast? := by
  have hne : picked pick (mid ++ g :: post) ≠ [] := by
    obtain ⟨v, hv⟩ := Option.isSome_iff_exists.mp hp
    rw [picked_append, picked, picked, List.filterMap_cons_some hm, List.filterMap_cons_some hv]
    simp
  generalize mid ++ g :: post = rest at hne ⊢
  rw [← List.singleton_append (x := f), picked_append, picked_append, picked_append,
    ← List.append_assoc, List.getLast?_append_of_ne_nil _ hne, List.getLast?_append_of_ne_nil _ hne]

end Picked

theorem sameEffect_permuted {fs gs : List (List Char)} (hp : fs.Perm gs)
    (hr : fs.filter (calls "fk") = gs.filter (calls "fk"))
    (hd : fs.filter (calls "default") = gs.filter (calls "default")) :
    SameEffect (fs.filterMap said?) (gs.filterMap said?) := by
  refine ⟨fun m _ => (hp.filterMap said?).mem_iff, congrArg List.getLast? ?_,
    congrArg List.getLast? ?_⟩
  · change picked reference? fs = picked reference? gs
    have hform : ∀ f m, said? f = some m → (reference? m).isSome = true → calls "fk" f = true :=
      fun f m hm => (isSome_reference?_iff hm).mp
    rw [← picked_filter hform, hr, picked_filter hform]
  · change picked default? fs = picked default? gs
    have hform : ∀ f m, said? f = some m → (default? m).isSome = true → calls "default" f = true :=
      fun f m hm => (isSome_default?_iff hm).mp
    rw [← picked_filter hform, hd, picked_filter hform]

theorem sameEffect_overridden {pre mid post : List (List Char)} {m' : Modifier}
    (hw : word = "fk" ∨ word = "default") (hf : calls word f = true) (hg : calls word g = true)
    (hm : said? f = some m) (hm' : said? g = some m') :
    SameEffect ((pre ++ f :: (mid ++ g :: post)).filterMap said?)
      ((pre ++ (mid ++ g :: post)).filterMap said?) := by
  have hpicked {α : Type} {pick : Modifier → Option α} (hp : pick m = none) :
      picked pick (pre ++ f :: (mid ++ g :: post)) = picked pick (pre ++ (mid ++ g :: post)) := by
    rw [picked_append, picked_cons_of_none hm hp, ← picked_append]
  have hkeys (hk : m ∉ [primaryKey, autoIncrement, nullable]) :
      ∀ k ∈ [primaryKey, autoIncrement, nullable],
        k ∈ (pre ++ f :: (mid ++ g :: post)).filterMap said? ↔
          k ∈ (pre ++ (mid ++ g :: post)).filterMap said? := by
    intro k hmem
    have hne : k ≠ m := fun he => hk (he ▸ hmem)
    rw [List.filterMap_append, List.filterMap_append, List.filterMap_cons_some hm, List.mem_append,
      List.mem_append, List.mem_cons]
    simp only [hne, false_or]
  rcases hw with rfl | rfl
  · have href := (isSome_reference?_iff hm).mpr hf
    have hother : default? m = none ∧ m ∉ [primaryKey, autoIncrement, nullable] := by
      cases m with
      | references table column => exact ⟨rfl, by simp⟩
      | _ => cases href
    exact ⟨hkeys hother.2, getLast?_picked hm' ((isSome_reference?_iff hm').mpr hg),
      congrArg List.getLast? (hpicked hother.1)⟩
  · have hdef := (isSome_default?_iff hm).mpr hf
    have hother : reference? m = none ∧ m ∉ [primaryKey, autoIncrement, nullable] := by
      cases m with
      | defaults value => exact ⟨rfl, by simp⟩
      | _ => cases hdef
    exact ⟨hkeys hother.2, congrArg List.getLast? (hpicked hother.1),
      getLast?_picked hm' ((isSome_default?_iff hm').mpr hg)⟩

def Readable (fs : List (List Char)) : Prop := ∀ f ∈ fs, (said? f).isSome = true

variable {fs gs : List (List Char)}

theorem readable_replace {pre post : List (List Char)} (h : said? f = said? g) :
    Readable (pre ++ f :: post) ↔ Readable (pre ++ g :: post) := by
  unfold Readable
  rw [List.forall_mem_append, List.forall_mem_append, List.forall_mem_cons, List.forall_mem_cons, h]

theorem readable_insert {pre post : List (List Char)} (h : (said? f).isSome = true) :
    Readable (pre ++ post) ↔ Readable (pre ++ f :: post) := by
  unfold Readable
  rw [List.forall_mem_append, List.forall_mem_append, List.forall_mem_cons]
  simp only [h, true_and]

theorem Restates.readable_iff (h : Restates fs gs) : Readable fs ↔ Readable gs := by
  cases h with
  | keyword hf hr => exact readable_replace (hf.said?.trans (hf.recased hr).said?.symm)
  | word hl ht hw hr => exact readable_replace (said?_call_recased hl ht hw hr)
  | synonym hf hg => exact readable_replace (hf.said?.trans hg.said?.symm)
  | repeated hm hf hg => exact readable_insert (by rw [hg.said?]; rfl)
  | permuted hp => exact forall_congr' fun f => by rw [hp.mem_iff]
  | overridden hw hf hg hr =>
    obtain ⟨m, hm⟩ := hr
    have hsome : (said? _).isSome = true := Option.isSome_of_eq_some (read?_eq_some.mpr hm)
    exact (readable_insert hsome).symm

theorem Restates.sameEffect (h : Restates fs gs) (hread : Readable gs) :
    SameEffect (fs.filterMap said?) (gs.filterMap said?) := by
  cases h with
  | keyword hf hr =>
    exact sameEffect_of_eq (filterMap_said?_replace (hf.said?.trans (hf.recased hr).said?.symm))
  | word hl ht hw hr =>
    exact sameEffect_of_eq (filterMap_said?_replace (said?_call_recased hl ht hw hr))
  | synonym hf hg =>
    exact sameEffect_of_eq (filterMap_said?_replace (hf.said?.trans hg.said?.symm))
  | repeated hm hf hg => exact sameEffect_repeated hm hf hg
  | permuted hp href hdef => exact sameEffect_permuted hp href hdef
  | @overridden pre mid post f g word hw hf hg hr =>
    obtain ⟨m, hm⟩ := hr
    obtain ⟨m', hm'⟩ := Option.isSome_iff_exists.mp (hread g (by simp))
    exact sameEffect_overridden hw hf hg (read?_eq_some.mpr hm) hm'

end Modifier

open Modifier (Restates Readable SameEffect said?)

variable {as bs : List Char} {fs gs : List (List Char)} {c : Column}

/-! ### Columns -/

inductive Rephrases : List (List Char) → List (List Char) → Prop
  /-- The type is put in another case. -/
  | type {name type type' : List Char} {rest : List (List Char)} (h : Recased type type') :
      Rephrases (name :: type :: rest) (name :: type' :: rest)
  /-- The modifiers are put in another way. -/
  | modifiers {name type : List Char} {rest rest' : List (List Char)} (h : Restates rest rest') :
      Rephrases (name :: type :: rest) (name :: type :: rest')

theorem means_iff {name type : List Char} {rest : List (List Char)} :
    Means (List.map trim (name :: type :: rest)) c ↔ trim name ≠ [] ∧ trim type ≠ [] ∧
      Readable rest ∧ (rest.filterMap said?).foldl Modifier.apply
        { name := String.ofList (trim name),
          kind := .ofAlias (String.ofList (trim type)) } = c := by
  have hreads {ms : List Modifier} : List.Forall₂ Modifier.Reads (rest.map trim) ms ↔
      Readable rest ∧ rest.filterMap said? = ms := by
    rw [Modifier.forall₂_reads_iff, List.forall_mem_map, List.filterMap_map]
    rfl
  rw [List.map_cons, List.map_cons]
  constructor
  · rintro ⟨hn, ht, hm⟩
    obtain ⟨hread, rfl⟩ := hreads.mp hm
    exact ⟨hn, ht, hread, rfl⟩
  · rintro ⟨hn, ht, hread, rfl⟩
    exact .intro hn ht (hreads.mpr ⟨hread, rfl⟩)

theorem Rephrases.means_iff (h : Rephrases fs gs) :
    Means (fs.map trim) c ↔ Means (gs.map trim) c := by
  cases h with
  | @type name type type' rest hr =>
    have hkind : Kind.ofAlias (String.ofList (trim type)) =
        Kind.ofAlias (String.ofList (trim type')) := by
      rw [Kind.ofAlias, Kind.ofAlias, String.toList_ofList, String.toList_ofList,
        hr.trim.lower_eq]
    have hnil : trim type ≠ [] ↔ trim type' ≠ [] := not_congr hr.trim.eq_nil_iff
    rw [Column.means_iff, Column.means_iff, hkind, hnil]
  | modifiers hm =>
    rw [Column.means_iff, Column.means_iff, hm.readable_iff]
    refine and_congr_right fun _ => and_congr_right fun _ => and_congr_right fun hread => ?_
    rw [(hm.sameEffect hread).foldl_eq]

/-- Edits of a column line. -/
inductive Edit : List Char → List Char → Prop
  /-- Blanks are put beside a comma or a colon, or at an end of the line. -/
  | gap {as gap bs : List Char} (hg : Gap gap) (hb : Beside marks as bs) :
      Edit (as ++ bs) (as ++ (gap ++ bs))
  /-- A blank column is put in front of a column. -/
  | blankBefore {as gap bs : List Char} (ha : Starts as) (hg : Gap gap) :
      Edit (as ++ bs) (as ++ (gap ++ ',' :: bs))
  /-- A blank column is put behind a column. -/
  | blankBehind {as gap bs : List Char} (hb : Ends bs) (hg : Gap gap) :
      Edit (as ++ bs) (as ++ (',' :: gap ++ bs))
  /-- A column is written with other fields. -/
  | column {as bs : List Char} {fs gs : List (List Char)} (ha : Starts as) (hb : Ends bs)
      (hf : ∀ f ∈ fs, ∀ mark ∈ marks, mark ∉ f) (hg : ∀ g ∈ gs, ∀ mark ∈ marks, mark ∉ g)
      (h : Rephrases fs gs) :
      Edit (as ++ (Text.join [':'] fs ++ bs)) (as ++ (Text.join [':'] gs ++ bs))

theorem rows_join (hf : ∀ f ∈ fs, ∀ mark ∈ marks, mark ∉ f) (hl : 2 ≤ fs.length) :
    rows (Text.join [':'] fs) = [fs.map trim] := by
  have hne : fs ≠ [] := List.ne_nil_of_length_pos (by omega)
  have hcomma : ',' ∉ Text.join [':'] fs := by
    intro hm
    rcases Text.mem_join hm with hm | ⟨f, hmem, hm⟩
    · exact absurd hm (by decide)
    · exact hf f hmem ',' (by decide) hm
  have hfields : fields (Text.join [':'] fs) = fs.map trim := by
    rw [fields, Text.split_join hne fun f hmem => hf f hmem ':' (by decide)]
  rw [rows_of_not_mem hcomma, hfields, List.filter_cons_of_pos, List.filter_nil]
  rw [decide_eq_true_iff]
  intro he
  have hlen := congrArg List.length he
  rw [List.length_map, List.length_singleton] at hlen
  omega

theorem forall₂_middle {α β : Type} {R : α → β → Prop} {x y : α} {pre post : List α} {ys : List β}
    (h : ∀ b, R x b ↔ R y b) :
    List.Forall₂ R (pre ++ x :: post) ys ↔ List.Forall₂ R (pre ++ y :: post) ys := by
  induction pre generalizing ys with
  | nil => simp only [List.nil_append, List.forall₂_cons_left_iff, h]
  | cons a pre ih => simp only [List.cons_append, List.forall₂_cons_left_iff, ih]

theorem Rephrases.two_le_length (h : Rephrases fs gs) : 2 ≤ fs.length ∧ 2 ≤ gs.length := by
  cases h <;> simp

/-- One edit changes no column. -/
theorem Edit.forall₂_means_iff {columns : List Column} (h : Edit as bs) :
    List.Forall₂ Means (rows as) columns ↔ List.Forall₂ Means (rows bs) columns := by
  cases h with
  | gap hg hb => rw [rows_gap hg hb]
  | blankBefore ha hg => rw [rows_blank_before ha hg]
  | blankBehind hb hg => rw [rows_blank_behind hb hg]
  | column ha hb hf hg hr =>
    obtain ⟨pre, hpre⟩ := ha.exists_rows
    obtain ⟨post, hpost⟩ := hb.exists_rows
    rw [hpre, hpost, hpre, hpost, rows_join hf hr.two_le_length.1, rows_join hg hr.two_le_length.2]
    exact forall₂_middle fun c => hr.means_iff

theorem forall₂_means_iff_of_edits {columns : List Column} (h : Relation.EqvGen Edit as bs) :
    List.Forall₂ Means (rows as) columns ↔ List.Forall₂ Means (rows bs) columns := by
  induction h with
  | rel as bs h => exact h.forall₂_means_iff
  | refl as => exact Iff.rfl
  | symm as bs _ ih => exact ih.symm
  | trans as bs cs _ _ hab hbc => exact hab.trans hbc

/-- Any number of edits, made or undone, leave the columns of a line as they are. -/
theorem parse_eq_ok_of_edits {line line' : String} {columns : List Column}
    (h : parse line = .ok columns) (he : Relation.EqvGen Edit line.toList line'.toList) :
    parse line' = .ok columns := by
  rw [parse_eq_ok_iff] at h ⊢
  exact (forall₂_means_iff_of_edits he).mp h

theorem parse_eq_ok_of_edits_order : ∃ columns,
    parse "id:INT:PK:fk(a.b)" = .ok columns ∧
    Relation.EqvGen Edit "id:INT:PK:fk(a.b)".toList "id :int:FK(a.b):primary_key,".toList ∧
    parse "id :int:FK(a.b):primary_key," = .ok columns := by
  have hsome : (parse "id:INT:PK:fk(a.b)").toOption.isSome = true := by decide +kernel
  obtain ⟨columns, h⟩ := Option.isSome_iff_exists.mp hsome
  rw [toOption_eq_some] at h
  have hmarks {fs : List (List Char)} (hf : ∀ f ∈ fs, ',' ∉ f ∧ ':' ∉ f) :
      ∀ f ∈ fs, ∀ mark ∈ marks, mark ∉ f := fun f hm =>
    List.forall_mem_cons.mpr ⟨(hf f hm).1, List.forall_mem_singleton.mpr (hf f hm).2⟩
  have hcolumn {fs gs : List (List Char)} (hf : ∀ f ∈ fs, ',' ∉ f ∧ ':' ∉ f)
      (hg : ∀ g ∈ gs, ',' ∉ g ∧ ':' ∉ g) (hr : Rephrases fs gs) :
      Relation.EqvGen Edit (Text.join [':'] fs) (Text.join [':'] gs) := by
    have he := @Edit.column [] [] fs gs (by simp [Starts]) (by simp [Ends]) (hmarks hf) (hmarks hg)
      hr
    rw [List.append_nil, List.append_nil] at he
    exact .rel _ _ he
  have htype := hcolumn (by decide) (by decide) <|
    @Rephrases.type "id".toList "INT".toList "int".toList ["PK".toList, "fk(a.b)".toList]
      (by unfold Recased; decide)
  have hspells : Modifier.Spells "fk" "fk".toList := by
    unfold Modifier.Spells
    decide +kernel
  have hword := hcolumn (by decide) (by decide) <|
    @Rephrases.modifiers "id".toList "int".toList _ _ <|
      @Restates.word ["PK".toList] [] [] [] "fk".toList "FK".toList "a.b".toList (by simp [Gap])
        (by simp [Gap]) (Or.inl hspells) (by unfold Recased; decide)
  have hsays : Modifier.Says .primaryKey "PK".toList ∧
      Modifier.Says .primaryKey "primary_key".toList := by
    unfold Modifier.Says
    decide +kernel
  have hsynonym := hcolumn (by decide) (by decide) <|
    @Rephrases.modifiers "id".toList "int".toList _ _ <|
      @Restates.synonym [] ["FK(a.b)".toList] _ _ _ hsays.1 hsays.2
  have hswap := hcolumn (by decide) (by decide) <|
    @Rephrases.modifiers "id".toList "int".toList _ _ <|
      @Restates.permuted ["primary_key".toList, "FK(a.b)".toList] _ (List.Perm.swap _ _ [])
        (by decide +kernel) (by decide +kernel)
  have hgap : Edit "id:int:FK(a.b):primary_key".toList "id :int:FK(a.b):primary_key".toList :=
    @Edit.gap "id".toList [' '] ":int:FK(a.b):primary_key".toList
      (List.forall_mem_singleton.mpr (by decide)) (Or.inr fun c hc => by cases hc; decide)
  have hblank : Edit "id :int:FK(a.b):primary_key".toList "id :int:FK(a.b):primary_key,".toList :=
    @Edit.blankBehind "id :int:FK(a.b):primary_key".toList [] [] (by simp [Ends]) (by simp [Gap])
  have hedits : Relation.EqvGen Edit "id:INT:PK:fk(a.b)".toList
      "id :int:FK(a.b):primary_key,".toList :=
    htype.trans _ _ _ <| hword.trans _ _ _ <| hsynonym.trans _ _ _ <| hswap.trans _ _ _ <|
      (Relation.EqvGen.rel _ _ hgap).trans _ _ _ (.rel _ _ hblank)
  exact ⟨columns, h, hedits, parse_eq_ok_of_edits h hedits⟩

end Scaffold.Column
