import Scaffold.Column.Reading
import Scaffold.Proofs.Fallible
import Scaffold.Proofs.Name.Grammar
import Scaffold.Proofs.Text.Casing
import Scaffold.Proofs.Text.Split

/-! # The grammar of column lines

What a part of a column line must look like to define a column, which column it then defines, and
why it is refused otherwise. A line is read exactly when all its parts define columns; if not, the
first part that defines none is the one that is reported.
-/

namespace Scaffold.Column

namespace Modifier

def Spells (word : String) (cs : List Char) : Prop :=
  List.Forall₂ (fun w c => Text.lowerChar c = [w]) word.toList cs

def call (word argument : List Char) : List Char := word ++ '(' :: argument ++ [')']

/-- The components of a path that name a table: all but the last, unless there is only one. -/
def pathTable (path : List Char) : List (List Char) :=
  let parts := Text.split '.' path
  if parts.length = 1 then parts else parts.dropLast

def pathColumn (path : List Char) : List Char :=
  let parts := Text.split '.' path
  if parts.length = 1 then Reference.defaultColumn.toList else parts.getLastD []

inductive Reads : List Char → Modifier → Prop
  | primaryKey {cs : List Char} (h : String.ofList (Text.lower cs) ∈ primaryKeyWords) :
      Reads cs .primaryKey
  | autoIncrement {cs : List Char} (h : String.ofList (Text.lower cs) ∈ autoIncrementWords) :
      Reads cs .autoIncrement
  | nullable {cs : List Char} (h : String.ofList (Text.lower cs) ∈ nullableWords) :
      Reads cs .nullable
  | references {w path : List Char} (hw : Spells "fk" w) (hn : path ≠ []) (hb : ')' ∉ path)
      (hp : ∀ p ∈ Text.split '.' path, Name.isIdentifier p = true) :
      Reads (call w path) (.references (String.ofList (Text.join ['.'] (pathTable path)))
        (String.ofList (pathColumn path)))
  | defaults {w value : List Char} (hw : Spells "default" w) (hn : value ≠ [])
      (hl : '\n' ∉ value) : Reads (call w value) (.defaults (String.ofList value))

structure Unknown (cs : List Char) : Prop where
  primaryKey : String.ofList (Text.lower cs) ∉ primaryKeyWords
  autoIncrement : String.ofList (Text.lower cs) ∉ autoIncrementWords
  nullable : String.ofList (Text.lower cs) ∉ nullableWords
  references : ∀ w path, Spells "fk" w → cs = call w path → path = [] ∨ ')' ∈ path
  defaults : ∀ w value, Spells "default" w → cs = call w value → value = [] ∨ '\n' ∈ value

/-- Why a field writes no modifier. In a path the table comes before the column, and its first
component that is no identifier is the one reported. -/
inductive Refuses (definition : String) : List Char → Failure → Prop
  | table {w path bad : List Char} {pre post : List (List Char)} (hw : Spells "fk" w)
      (hn : path ≠ []) (hb : ')' ∉ path) (ht : pathTable path = pre ++ bad :: post)
      (hp : ∀ p ∈ pre, Name.isIdentifier p = true) (hbad : Name.isIdentifier bad = false) :
      Refuses definition (call w path)
        (Complaint.illFormed (String.ofList bad) "foreign key table" .identifier)
  | column {w path : List Char} (hw : Spells "fk" w) (hn : path ≠ []) (hb : ')' ∉ path)
      (hp : ∀ p ∈ pathTable path, Name.isIdentifier p = true)
      (hbad : Name.isIdentifier (pathColumn path) = false) :
      Refuses definition (call w path)
        (Complaint.illFormed (String.ofList (pathColumn path)) "foreign key column" .identifier)
  | unknown {cs : List Char} (h : Unknown cs) :
      Refuses definition cs (Complaint.columnModifier (String.ofList cs) definition)

variable {cs w arg path value : List Char} {word definition : String} {m : Modifier} {f : Failure}

theorem afterWord?_eq_some {ws rest : List Char} :
    afterWord? ws cs = some rest ↔
      ∃ w, List.Forall₂ (fun w c => Text.lowerChar c = [w]) ws w ∧ cs = w ++ rest := by
  induction ws generalizing cs with
  | nil => simp [afterWord?]
  | cons a ws ih =>
    cases cs with
    | nil =>
      simp only [afterWord?, false_iff, reduceCtorEq]
      rintro ⟨_, _ | _, he⟩
      cases he
    | cons c cs =>
      rw [afterWord?]
      split
      · rename_i hc
        rw [ih]
        constructor
        · rintro ⟨w, hw, rfl⟩
          exact ⟨c :: w, .cons hc hw, rfl⟩
        · rintro ⟨_, _ | ⟨_, hw⟩, he⟩
          cases he
          exact ⟨_, hw, rfl⟩
      · rename_i hc
        simp only [false_iff, reduceCtorEq]
        rintro ⟨_, _ | ⟨hd, _⟩, he⟩
        cases he
        exact hc hd

theorem argument?_eq_some :
    argument? word cs = some arg ↔ ∃ w, Spells word w ∧ cs = call w arg := by
  rw [argument?]
  constructor
  · intro h
    split at h
    · rename_i rest hr
      obtain ⟨w, hw, rfl⟩ := afterWord?_eq_some.mp hr
      rw [Text.before?_eq_some.mp h]
      exact ⟨w, hw, by simp [call]⟩
    · cases h
  · rintro ⟨w, hw, rfl⟩
    have ha : afterWord? word.toList (call w arg) = some ('(' :: (arg ++ [')'])) :=
      afterWord?_eq_some.mpr ⟨w, hw, by simp [call]⟩
    simp only [ha]
    exact Text.before?_eq_some.mpr rfl

theorem lower_call_not_mem {words : List String} (h : ∀ k ∈ words, '(' ∉ k.toList) :
    String.ofList (Text.lower (call w arg)) ∉ words := by
  intro hm
  have hc : '(' ∈ Text.lower (call w arg) :=
    Text.mem_lowerFrom_of_isSmall (by simp [call]) (Text.isSmall_of_lt (by decide))
  exact h _ hm (by simpa using hc)

theorem call_not_keyword (w arg : List Char) :
    String.ofList (Text.lower (call w arg)) ∉ primaryKeyWords ∧
      String.ofList (Text.lower (call w arg)) ∉ autoIncrementWords ∧
      String.ofList (Text.lower (call w arg)) ∉ nullableWords :=
  ⟨lower_call_not_mem (by decide), lower_call_not_mem (by decide), lower_call_not_mem (by decide)⟩

theorem ofChars_primaryKey (h : String.ofList (Text.lower cs) ∈ primaryKeyWords) :
    ofChars definition cs = .ok .primaryKey := by
  simp [ofChars, h]

theorem ofChars_autoIncrement (h : String.ofList (Text.lower cs) ∈ autoIncrementWords) :
    ofChars definition cs = .ok .autoIncrement := by
  have hp : String.ofList (Text.lower cs) ∉ primaryKeyWords := fun hp =>
    (by decide : ∀ k ∈ autoIncrementWords, k ∉ primaryKeyWords) _ h hp
  simp [ofChars, h, hp]

theorem ofChars_nullable (h : String.ofList (Text.lower cs) ∈ nullableWords) :
    ofChars definition cs = .ok .nullable := by
  have hp : String.ofList (Text.lower cs) ∉ primaryKeyWords := fun hp =>
    (by decide : ∀ k ∈ nullableWords, k ∉ primaryKeyWords) _ h hp
  have ha : String.ofList (Text.lower cs) ∉ autoIncrementWords := fun ha =>
    (by decide : ∀ k ∈ nullableWords, k ∉ autoIncrementWords) _ h ha
  simp [ofChars, h, hp, ha]

theorem argument?_call (hw : Spells word w) : argument? word (call w arg) = some arg :=
  argument?_eq_some.mpr ⟨w, hw, rfl⟩

theorem ofChars_call_fk (hw : Spells "fk" w) (hn : path ≠ []) (hb : ')' ∉ path) :
    ofChars definition (call w path) = ofReference path := by
  have hf : (argument? "fk" (call w path)).filter (fun path => path ≠ [] ∧ ')' ∉ path) =
      some path := by
    rw [argument?_call hw]
    simp [Option.filter, hn, hb]
  obtain ⟨hp, ha, hk⟩ := call_not_keyword w path
  simp only [ofChars, List.contains_iff_mem, hp, ha, hk, if_false, hf]

theorem argument?_fk_of_default (hw : Spells "default" w) : argument? "fk" (call w arg) = none := by
  rw [Option.eq_none_iff_forall_ne_some]
  intro a ha
  obtain ⟨v, hv, he⟩ := argument?_eq_some.mp ha
  rcases hw with _ | ⟨hd, _⟩
  rcases hv with _ | ⟨hf, _⟩
  obtain ⟨rfl, -⟩ := List.cons.inj he
  rw [hd] at hf
  exact absurd hf (by decide)

theorem ofChars_call_default (hw : Spells "default" w) (hn : value ≠ []) (hl : '\n' ∉ value) :
    ofChars definition (call w value) = .ok (.defaults (String.ofList value)) := by
  have hd : (argument? "default" (call w value)).filter
      (fun value => value ≠ [] ∧ '\n' ∉ value) = some value := by
    rw [argument?_call hw]
    simp [Option.filter, hn, hl]
  obtain ⟨hp, ha, hk⟩ := call_not_keyword w value
  simp only [ofChars, List.contains_iff_mem, hp, ha, hk, if_false, argument?_fk_of_default hw,
    Option.filter_none, hd]

theorem ofChars_unknown (h : Unknown cs) :
    ofChars definition cs = .error (Complaint.columnModifier (String.ofList cs) definition) := by
  have hf : (argument? "fk" cs).filter (fun path => path ≠ [] ∧ ')' ∉ path) = none := by
    rw [Option.filter_eq_none_iff]
    intro path hp
    obtain ⟨w, hw, he⟩ := argument?_eq_some.mp hp
    simpa [imp_iff_not_or] using h.references w path hw he
  have hd : (argument? "default" cs).filter (fun value => value ≠ [] ∧ '\n' ∉ value) = none := by
    rw [Option.filter_eq_none_iff]
    intro value hv
    obtain ⟨w, hw, he⟩ := argument?_eq_some.mp hv
    simpa [imp_iff_not_or] using h.defaults w value hw he
  simp only [ofChars, List.contains_iff_mem, h.primaryKey, h.autoIncrement, h.nullable, if_false,
    hf, hd]

theorem path_cases (path : List Char) :
    (∃ table, Text.split '.' path = [table] ∧ pathTable path = [table] ∧
      pathColumn path = Reference.defaultColumn.toList) ∨
    ∃ init table column, Text.split '.' path = init ++ [table, column] ∧
      pathTable path = init ++ [table] ∧ pathColumn path = column := by
  rcases List.eq_nil_or_concat (Text.split '.' path) with h | ⟨tables, column, h⟩
  · exact absurd h (Text.split_ne_nil '.' path)
  rcases List.eq_nil_or_concat tables with rfl | ⟨init, table, rfl⟩
  · exact Or.inl ⟨column, by simp [pathTable, pathColumn, h]⟩
  · exact Or.inr ⟨init, table, column, by simp [pathTable, pathColumn, h]⟩

theorem ofReference_eq (path : List Char) :
    ofReference path = do
      ((pathTable path).map String.ofList).forM (Name.checkIdentifier · "foreign key table")
      Name.checkIdentifier (String.ofList (pathColumn path)) "foreign key column"
      return references (String.ofList (Text.join ['.'] (pathTable path)))
        (String.ofList (pathColumn path)) := by
  have hj (ts : List (List Char)) :
      String.intercalate "." (ts.map String.ofList) = String.ofList (Text.join ['.'] ts) := by
    rw [← String.toList_inj, Text.toList_intercalate]
    simp [Function.comp_def]
  rw [ofReference, ← hj]
  simp only [forIn_eq_forM]
  rcases path_cases path with ⟨table, hs, ht, hc⟩ | ⟨init, table, column, hs, ht, hc⟩
  · simp [hs, ht, hc]
  · simp [hs, ht, hc]

theorem ofReference_eq_ok :
    ofReference path = .ok m ↔ (∀ p ∈ pathTable path, Name.isIdentifier p = true) ∧
      Name.isIdentifier (pathColumn path) = true ∧
      m = references (String.ofList (Text.join ['.'] (pathTable path)))
        (String.ofList (pathColumn path)) := by
  simp only [ofReference_eq, check_bind_eq_ok, forM_eq_ok, List.forall_mem_map,
    Name.checkIdentifier_eq_ok, String.toList_ofList, pure, Except.pure, Except.ok.injEq,
    eq_comm (b := m)]

theorem ofReference_eq_error :
    ofReference path = .error f ↔
      (∃ pre bad post, pathTable path = pre ++ bad :: post ∧
        (∀ p ∈ pre, Name.isIdentifier p = true) ∧ Name.isIdentifier bad = false ∧
        f = Complaint.illFormed (String.ofList bad) "foreign key table" .identifier) ∨
      (∀ p ∈ pathTable path, Name.isIdentifier p = true) ∧
        Name.isIdentifier (pathColumn path) = false ∧
        f = Complaint.illFormed (String.ofList (pathColumn path)) "foreign key column"
          .identifier := by
  simp only [ofReference_eq, check_bind_eq_error, forM_eq_ok, forM_eq_error, failsFirst_map,
    List.forall_mem_map, Name.checkIdentifier_eq_ok, Name.checkIdentifier_eq_error,
    String.toList_ofList, pure, Except.pure, reduceCtorEq, and_false, or_false]
  simp only [FailsFirst, Function.comp_apply, exists_eq_ok_unit, Name.checkIdentifier_eq_ok,
    Name.checkIdentifier_eq_error, String.toList_ofList]

theorem forall_mem_split_iff : (∀ p ∈ Text.split '.' path, Name.isIdentifier p = true) ↔
    (∀ p ∈ pathTable path, Name.isIdentifier p = true) ∧
      Name.isIdentifier (pathColumn path) = true := by
  rcases path_cases path with ⟨table, hs, ht, hc⟩ | ⟨init, table, column, hs, ht, hc⟩
  · have hd : Name.isIdentifier Reference.defaultColumn.toList = true := by decide
    simp [hs, ht, hc, hd]
  · simp only [hs, ht, hc, List.forall_mem_append, List.forall_mem_cons, List.not_mem_nil,
      false_imp_iff, forall_const, and_true, and_assoc]

/-- Every text is a keyword, a reference, a default or unknown. -/
theorem form_cases (cs : List Char) :
    String.ofList (Text.lower cs) ∈ primaryKeyWords ∨
      String.ofList (Text.lower cs) ∈ autoIncrementWords ∨
      String.ofList (Text.lower cs) ∈ nullableWords ∨
      (∃ w path, Spells "fk" w ∧ path ≠ [] ∧ ')' ∉ path ∧ cs = call w path) ∨
      (∃ w value, Spells "default" w ∧ value ≠ [] ∧ '\n' ∉ value ∧ cs = call w value) ∨
      Unknown cs := by
  by_contra h
  push Not at h
  obtain ⟨hp, ha, hn, hr, hd, hu⟩ := h
  refine hu ⟨hp, ha, hn, fun w path hw he => ?_, fun w value hw he => ?_⟩
  · by_contra hc
    push Not at hc
    exact hr w path hw hc.1 hc.2 he
  · by_contra hc
    push Not at hc
    exact hd w value hw hc.1 hc.2 he

theorem ofChars_eq_ok : ofChars definition cs = .ok m ↔ Reads cs m := by
  constructor
  · intro h
    rcases form_cases cs with hk | hk | hk | ⟨w, path, hw, hn, hb, rfl⟩ |
      ⟨w, value, hw, hn, hl, rfl⟩ | hu
    · rw [ofChars_primaryKey hk] at h
      cases h
      exact .primaryKey hk
    · rw [ofChars_autoIncrement hk] at h
      cases h
      exact .autoIncrement hk
    · rw [ofChars_nullable hk] at h
      cases h
      exact .nullable hk
    · rw [ofChars_call_fk hw hn hb] at h
      obtain ⟨ht, hc, rfl⟩ := ofReference_eq_ok.mp h
      exact .references hw hn hb (forall_mem_split_iff.mpr ⟨ht, hc⟩)
    · rw [ofChars_call_default hw hn hl] at h
      cases h
      exact .defaults hw hn hl
    · rw [ofChars_unknown hu] at h
      cases h
  · rintro (hk | hk | hk | ⟨hw, hn, hb, hp⟩ | ⟨hw, hn, hl⟩)
    · exact ofChars_primaryKey hk
    · exact ofChars_autoIncrement hk
    · exact ofChars_nullable hk
    · rw [ofChars_call_fk hw hn hb]
      obtain ⟨ht, hc⟩ := forall_mem_split_iff.mp hp
      exact ofReference_eq_ok.mpr ⟨ht, hc, rfl⟩
    · exact ofChars_call_default hw hn hl

theorem ofChars_eq_error : ofChars definition cs = .error f ↔ Refuses definition cs f := by
  constructor
  · intro h
    rcases form_cases cs with hk | hk | hk | ⟨w, path, hw, hn, hb, rfl⟩ |
      ⟨w, value, hw, hn, hl, rfl⟩ | hu
    · rw [ofChars_primaryKey hk] at h
      cases h
    · rw [ofChars_autoIncrement hk] at h
      cases h
    · rw [ofChars_nullable hk] at h
      cases h
    · rw [ofChars_call_fk hw hn hb] at h
      rcases ofReference_eq_error.mp h with ⟨pre, bad, post, ht, hp, hbad, rfl⟩ | ⟨ht, hc, rfl⟩
      · exact .table hw hn hb ht hp hbad
      · exact .column hw hn hb ht hc
    · rw [ofChars_call_default hw hn hl] at h
      cases h
    · rw [ofChars_unknown hu] at h
      cases h
      exact .unknown hu
  · rintro (⟨hw, hn, hb, ht, hp, hbad⟩ | ⟨hw, hn, hb, hp, hbad⟩ | hu)
    · rw [ofChars_call_fk hw hn hb]
      exact ofReference_eq_error.mpr (Or.inl ⟨_, _, _, ht, hp, hbad, rfl⟩)
    · rw [ofChars_call_fk hw hn hb]
      exact ofReference_eq_error.mpr (Or.inr ⟨hp, hbad, rfl⟩)
    · exact ofChars_unknown hu

end Modifier

def fields (part : List Char) : List (List Char) := (Text.split ':' part).map Text.trim

inductive Defines (part : List Char) : Column → Prop
  | intro {name type : List Char} {rest : List (List Char)} {modifiers : List Modifier}
      (hf : fields part = name :: type :: rest) (hn : name ≠ []) (ht : type ≠ [])
      (hm : List.Forall₂ Modifier.Reads rest modifiers) :
      Defines part (modifiers.foldl Modifier.apply
        { name := String.ofList name, kind := .ofAlias (String.ofList type) })

/-- Why a part defines no column: it has too few fields, a blank name or type, or a field that
writes no modifier, of which the first is the one reported. -/
inductive Refuses (part : List Char) : Failure → Prop
  | shape (h : (fields part).length < 2) :
      Refuses part (Complaint.columnShape (String.ofList part))
  | blank {name type : List Char} {rest : List (List Char)}
      (hf : fields part = name :: type :: rest) (h : name = [] ∨ type = []) :
      Refuses part (Complaint.columnBlank (String.ofList part))
  | modifier {name type field : List Char} {pre post : List (List Char)} {f : Failure}
      (hf : fields part = name :: type :: (pre ++ field :: post)) (hn : name ≠ []) (ht : type ≠ [])
      (hp : ∀ x ∈ pre, ∃ m, Modifier.Reads x m)
      (hm : Modifier.Refuses (String.ofList part) field f) : Refuses part f

variable {part : List Char} {c : Column} {cs : List Column} {f : Failure} {line : String}

theorem ofChars_of_fields {name type : List Char} {rest : List (List Char)}
    (hf : fields part = name :: type :: rest) (hn : name ≠ []) (ht : type ≠ []) :
    ofChars part = List.foldl Modifier.apply
        { name := String.ofList name, kind := .ofAlias (String.ofList type) } <$>
      rest.mapM (Modifier.ofChars (String.ofList part)) := by
  rw [← foldlM_map_eq]
  rw [fields] at hf
  simp only [ofChars, hf, hn, ht, or_self, if_false]

theorem ofChars_of_blank {name type : List Char} {rest : List (List Char)}
    (hf : fields part = name :: type :: rest) (h : name = [] ∨ type = []) :
    ofChars part = .error (Complaint.columnBlank (String.ofList part)) := by
  rw [fields] at hf
  simp only [ofChars, hf, h, if_true]

theorem ofChars_of_short (h : (fields part).length < 2) :
    ofChars part = .error (Complaint.columnShape (String.ofList part)) := by
  rw [fields] at h
  rw [ofChars]
  split
  · rename_i hf
    rw [hf] at h
    simp only [List.length_cons] at h
    omega
  · rfl

/-- A part has too few fields, a blank name or type, or a name, a type and modifiers. -/
theorem fields_cases (part : List Char) : (fields part).length < 2 ∨
    ∃ name type rest, fields part = name :: type :: rest ∧
      ((name = [] ∨ type = []) ∨ name ≠ [] ∧ type ≠ []) := by
  match h : fields part with
  | [] => simp
  | [_] => simp
  | name :: type :: rest =>
    refine Or.inr ⟨name, type, rest, rfl, ?_⟩
    tauto

theorem ofChars_eq_ok : ofChars part = .ok c ↔ Defines part c := by
  constructor
  · intro h
    rcases fields_cases part with hs | ⟨name, type, rest, hf, hb | ⟨hn, ht⟩⟩
    · rw [ofChars_of_short hs] at h
      cases h
    · rw [ofChars_of_blank hf hb] at h
      cases h
    · rw [ofChars_of_fields hf hn ht] at h
      obtain ⟨ms, hm, rfl⟩ := map_eq_ok.mp h
      exact .intro hf hn ht ((mapM_eq_ok.mp hm).imp fun _ _ => Modifier.ofChars_eq_ok.mp)
  · rintro ⟨hf, hn, ht, hm⟩
    rw [ofChars_of_fields hf hn ht]
    exact map_eq_ok.mpr
      ⟨_, mapM_eq_ok.mpr (hm.imp fun _ _ => Modifier.ofChars_eq_ok.mpr), rfl⟩

theorem ofChars_eq_error : ofChars part = .error f ↔ Refuses part f := by
  constructor
  · intro h
    rcases fields_cases part with hs | ⟨name, type, rest, hf, hb | ⟨hn, ht⟩⟩
    · rw [ofChars_of_short hs] at h
      cases h
      exact .shape hs
    · rw [ofChars_of_blank hf hb] at h
      cases h
      exact .blank hf hb
    · rw [ofChars_of_fields hf hn ht, map_eq_error] at h
      obtain ⟨pre, field, post, rfl, hp, he⟩ := mapM_eq_error.mp h
      exact .modifier hf hn ht (fun x hx => (hp x hx).imp fun _ => Modifier.ofChars_eq_ok.mp)
        (Modifier.ofChars_eq_error.mp he)
  · rintro (hs | ⟨hf, hb⟩ | ⟨hf, hn, ht, hp, hm⟩)
    · exact ofChars_of_short hs
    · exact ofChars_of_blank hf hb
    · rw [ofChars_of_fields hf hn ht, map_eq_error]
      exact mapM_eq_error.mpr ⟨_, _, _, rfl,
        fun x hx => (hp x hx).imp fun _ => Modifier.ofChars_eq_ok.mpr,
        Modifier.ofChars_eq_error.mpr hm⟩

theorem parse_eq_ok : parse line = .ok cs ↔ List.Forall₂ Defines (parts line) cs := by
  rw [parse, mapM_eq_ok]
  simp only [ofChars_eq_ok]

theorem parse_eq_error :
    parse line = .error f ↔ ∃ pre part post, parts line = pre ++ part :: post ∧
      (∀ q ∈ pre, ∃ c, Defines q c) ∧ Refuses part f := by
  rw [parse, mapM_eq_error, FailsFirst]
  simp only [ofChars_eq_ok, ofChars_eq_error]

def WellFormed (part : List Char) : Prop :=
  ∃ name type rest, fields part = name :: type :: rest ∧ name ≠ [] ∧ type ≠ [] ∧
    ∀ field ∈ rest, ∃ m, Modifier.Reads field m

theorem exists_defines_iff : (∃ c, Defines part c) ↔ WellFormed part := by
  constructor
  · rintro ⟨_, hf, hn, ht, hm⟩
    exact ⟨_, _, _, hf, hn, ht, exists_forall₂_iff.mp ⟨_, hm⟩⟩
  · rintro ⟨name, type, rest, hf, hn, ht, hm⟩
    obtain ⟨ms, hs⟩ := exists_forall₂_iff.mpr hm
    exact ⟨_, .intro hf hn ht hs⟩

inductive Told (part : List Char) : Notice → Prop
  | shape : Told part (.column ("Invalid column definition: \"" ++ String.ofList part ++ "\"")
      (String.ofList part) (some Complaint.columnFormat))
  | blank : Told part (.column
      ("Missing name or type in column: \"" ++ String.ofList part ++ "\"")
      (String.ofList part) (some "Each column must have a name and type"))
  | modifier (field : String) : Told part (.column ("Unknown modifier: \"" ++ field ++ "\"")
      (String.ofList part) (some Complaint.validModifiers))
  | name (value : String) {role : String}
      (hr : role = "foreign key table" ∨ role = "foreign key column") :
      Told part (.name value role (some (NameRule.identifier.hint role)))

theorem Modifier.Refuses.told {field : List Char}
    (h : Modifier.Refuses (String.ofList part) field f) :
    ∃ c : Complaint, f = .complaint c ∧ Told part c.notice := by
  rcases h with ⟨hw, hn, hb, ht, hp, hbad⟩ | ⟨hw, hn, hb, hp, hbad⟩ | hu
  · exact ⟨_, rfl, .name _ (Or.inl rfl)⟩
  · exact ⟨_, rfl, .name _ (Or.inr rfl)⟩
  · exact ⟨_, rfl, .modifier (String.ofList field)⟩

theorem Refuses.told (h : Refuses part f) :
    ∃ c : Complaint, f = .complaint c ∧ Told part c.notice := by
  rcases h with hs | ⟨hf, hb⟩ | ⟨hf, hn, ht, hp, hm⟩
  · exact ⟨_, rfl, .shape⟩
  · exact ⟨_, rfl, .blank⟩
  · exact hm.told

theorem Told.exitCode {n : Notice} (h : Told part n) : n.exitCode = 1 ∧ n.hint ≠ none := by
  cases h <;> exact ⟨rfl, by simp [Notice.column, Notice.name]⟩

/-- A line is read exactly when all its parts are well formed, with one column for each part in
order. Otherwise the first part that is not decides the failure, which names that part. -/
theorem parse_decided_leftmost (line : String) :
    ((∃ cs, parse line = .ok cs) ↔ ∀ part ∈ parts line, WellFormed part) ∧
    (∀ cs, parse line = .ok cs ↔ List.Forall₂ Defines (parts line) cs) ∧
    (∀ f, parse line = .error f ↔ ∃ pre part post, parts line = pre ++ part :: post ∧
      (∀ q ∈ pre, WellFormed q) ∧ Refuses part f) ∧
    ∀ part f, Refuses part f → ∃ c : Complaint, f = .complaint c ∧ Told part c.notice ∧
      c.notice.exitCode = 1 ∧ c.notice.hint ≠ none := by
  refine ⟨?_, fun cs => parse_eq_ok, fun f => ?_, fun part f h => ?_⟩
  · simp only [parse_eq_ok, exists_forall₂_iff, exists_defines_iff]
  · simp only [parse_eq_error, exists_defines_iff]
  · obtain ⟨c, hc, ht⟩ := h.told
    exact ⟨c, hc, ht, ht.exitCode⟩

end Scaffold.Column
