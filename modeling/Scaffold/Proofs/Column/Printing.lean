import Scaffold.Proofs.Column.Grammar

/-! # Printing columns

A canonical column has one written form, a part of a column line that reads as the column again.
Reading a line yields canonical columns only, so that what was read can be printed and read once
more.
-/

namespace Scaffold.Column

/-- A text that stays whole as a field of a column line. -/
structure IsField (cs : List Char) : Prop where
  ne_nil : cs ≠ []
  trimmed : Text.Trimmed cs
  no_comma : ',' ∉ cs
  no_colon : ':' ∉ cs

namespace Modifier

def text : Modifier → List Char
  | primaryKey => "pk".toList
  | autoIncrement => "autoincrement".toList
  | nullable => "nullable".toList
  | references table column => call "fk".toList (table.toList ++ '.' :: column.toList)
  | defaults value => call "default".toList value.toList

/-- A modifier whose written form reads as the modifier again. -/
inductive Canonical : Modifier → Prop
  | primaryKey : Canonical .primaryKey
  | autoIncrement : Canonical .autoIncrement
  | nullable : Canonical .nullable
  | references {tables : List (List Char)} {column : List Char} (hn : tables ≠ [])
      (ht : ∀ p ∈ tables, Name.isIdentifier p = true) (hc : Name.isIdentifier column = true) :
      Canonical (.references (String.ofList (Text.join ['.'] tables)) (String.ofList column))
  | defaults {value : List Char} (hn : value ≠ []) (hc : ',' ∉ value) (hd : ':' ∉ value)
      (hl : '\n' ∉ value) : Canonical (.defaults (String.ofList value))

variable {m : Modifier} {cs w arg path : List Char}

theorem text_references (table column : List Char) :
    (references (String.ofList table) (String.ofList column)).text =
      call "fk".toList (table ++ '.' :: column) := by
  have ht : (String.ofList table).toList = table := String.toList_ofList
  have hc : (String.ofList column).toList = column := String.toList_ofList
  exact congrArg₂ (fun t c => call "fk".toList (t ++ '.' :: c)) ht hc

theorem text_defaults (value : List Char) :
    (defaults (String.ofList value)).text = call "default".toList value :=
  congrArg (call "default".toList) String.toList_ofList

def isSmallWord (word : String) : Bool := word.toList.all fun c => 0x5A < c.toNat && c.toNat < 0xC0

theorem isSmall_of_mem {word : String} {c : Char} (h : isSmallWord word = true)
    (hc : c ∈ word.toList) : Text.IsSmall c := by
  have := List.all_eq_true.mp h c hc
  exact Text.isSmall_of_lt (Or.inr (by simpa using this))

theorem spells_self {word : String} (h : isSmallWord word = true) : Spells word word.toList := by
  rw [Spells, List.forall₂_same]
  exact fun c hc => isSmall_of_mem h hc

theorem isField_call {word : List Char} (hw : IsField word) (hc : ',' ∉ arg) (hd : ':' ∉ arg) :
    IsField (call word arg) where
  ne_nil := by simp [call]
  trimmed := by
    have hb : Text.Trimmed [')'] := by decide
    have : Text.Trimmed (word ++ ('(' :: arg) ++ [')']) :=
      hw.trimmed.append hb hw.ne_nil (List.cons_ne_nil _ _)
    simpa [call] using this
  no_comma := by simp [call, hw.no_comma, hc]
  no_colon := by simp [call, hw.no_colon, hd]

theorem not_mem_join_identifiers {tables : List (List Char)} {c : Char}
    (ht : ∀ p ∈ tables, Name.isIdentifier p = true) (hc : Name.isWordChar c = false)
    (hd : c ≠ '.') : c ∉ Text.join ['.'] tables := by
  intro hm
  rcases Text.mem_join hm with h | ⟨p, hp, h⟩
  · exact hd (List.mem_singleton.mp h)
  · exact Name.not_mem_of_isIdentifier (ht p hp) hc h

theorem not_mem_path {tables : List (List Char)} {column : List Char} {c : Char}
    (ht : ∀ p ∈ tables, Name.isIdentifier p = true) (hn : Name.isIdentifier column = true)
    (hc : Name.isWordChar c = false) (hd : c ≠ '.') :
    c ∉ Text.join ['.'] tables ++ '.' :: column := by
  simp [not_mem_join_identifiers ht hc hd, Name.not_mem_of_isIdentifier hn hc, hd]

theorem Canonical.isField_text (h : Canonical m) : IsField m.text := by
  cases h with
  | primaryKey => exact ⟨by decide, by decide, by decide, by decide⟩
  | autoIncrement => exact ⟨by decide, by decide, by decide, by decide⟩
  | nullable => exact ⟨by decide, by decide, by decide, by decide⟩
  | references hn ht hc =>
    rw [text_references]
    exact isField_call ⟨by decide, by decide, by decide, by decide⟩
      (not_mem_path ht hc (by decide) (by decide)) (not_mem_path ht hc (by decide) (by decide))
  | defaults hn hc hd hl =>
    rw [text_defaults]
    exact isField_call ⟨by decide, by decide, by decide, by decide⟩ hc hd

theorem split_path {tables : List (List Char)} {column : List Char} (hn : tables ≠ [])
    (ht : ∀ p ∈ tables, Name.isIdentifier p = true) (hc : Name.isIdentifier column = true) :
    Text.split '.' (Text.join ['.'] tables ++ '.' :: column) = tables ++ [column] := by
  refine Text.split_eq_iff.mpr ⟨by simp, ?_, ?_⟩
  · rw [List.forall_mem_append, List.forall_mem_singleton]
    exact ⟨fun p hp => Name.not_mem_of_isIdentifier (ht p hp) (by decide),
      Name.not_mem_of_isIdentifier hc (by decide)⟩
  · rw [Text.join_append _ hn (List.cons_ne_nil _ _), List.append_assoc, List.singleton_append]
    rfl

theorem mem_of_small_word {words : List String} {word : String} (hw : word ∈ words)
    (hs : isSmallWord word = true) : String.ofList (Text.lower word.toList) ∈ words := by
  rw [Text.lower_of_isSmall fun c hc => isSmall_of_mem hs hc, String.ofList_toList]
  exact hw

theorem Canonical.reads_text (h : Canonical m) : Reads m.text m := by
  cases h with
  | primaryKey =>
    have hk : "pk" ∈ primaryKeyWords := by decide
    exact .primaryKey (mem_of_small_word hk (by decide))
  | autoIncrement =>
    have hk : "autoincrement" ∈ autoIncrementWords := by decide
    exact .autoIncrement (mem_of_small_word hk (by decide))
  | nullable =>
    have hk : "nullable" ∈ nullableWords := by decide
    exact .nullable (mem_of_small_word hk (by decide))
  | @references tables column hn ht hc =>
    have hs := split_path hn ht hc
    have hp : ∀ p ∈ tables ++ [column], Name.isIdentifier p = true := by
      rw [List.forall_mem_append, List.forall_mem_singleton]
      exact ⟨ht, hc⟩
    have hb : ')' ∉ Text.join ['.'] tables ++ '.' :: column :=
      not_mem_path ht hc (by decide) (by decide)
    have hw : Spells "fk" "fk".toList := spells_self (by decide)
    have hr := Reads.references hw (by simp) hb (by rwa [hs])
    have he : (pathTable (Text.join ['.'] tables ++ '.' :: column)) = tables ∧
        pathColumn (Text.join ['.'] tables ++ '.' :: column) = column := by
      simp [pathTable, pathColumn, hs, hn]
    rw [he.1, he.2] at hr
    rwa [text_references]
  | defaults hn hc hd hl =>
    have hw : Spells "default" "default".toList := spells_self (by decide)
    rw [text_defaults]
    exact .defaults hw hn hl

/-- What a field without separators reads as is canonical. -/
theorem Reads.canonical (h : Reads cs m) (hc : ',' ∉ cs) (hd : ':' ∉ cs) : Canonical m := by
  cases h with
  | primaryKey h => exact .primaryKey
  | autoIncrement h => exact .autoIncrement
  | nullable h => exact .nullable
  | @references w path hw hn hb hp =>
    obtain ⟨ht, hl⟩ := forall_mem_split_iff.mp hp
    refine .references ?_ ht hl
    rcases path_cases path with ⟨table, -, he, -⟩ | ⟨init, table, column, -, he, -⟩ <;> simp [he]
  | defaults hw hn hl =>
    simp only [call, List.mem_append, List.mem_cons, not_or] at hc hd
    exact .defaults hn hc.1.2.2 hd.1.2.2 hl

end Modifier

def modifiers (c : Column) : List Modifier :=
  (if c.primaryKey then [.primaryKey] else []) ++
  (if c.autoIncrement then [.autoIncrement] else []) ++
  (if c.nullable then [.nullable] else []) ++
  (match c.reference with
    | some ⟨some table, some column⟩ => [.references table column]
    | _ => []) ++
  (c.defaultValue.map Modifier.defaults).toList

def text (c : Column) : List Char :=
  Text.join [':'] (c.name.toList :: c.kind.name.toList :: c.modifiers.map Modifier.text)

def print (cs : List Column) : String := String.ofList (Text.join [','] (cs.map text))

/-- A reference to a column by a dotted path of identifiers. -/
inductive Reference.Canonical : Reference → Prop
  | intro {tables : List (List Char)} {column : List Char} (hn : tables ≠ [])
      (ht : ∀ p ∈ tables, Name.isIdentifier p = true) (hc : Name.isIdentifier column = true) :
      Canonical
        ⟨some (String.ofList (Text.join ['.'] tables)), some (String.ofList column)⟩

/-- A column whose written form reads as the column again. -/
structure Canonical (c : Column) : Prop where
  name : IsField c.name.toList
  kind : IsField c.kind.name.toList
  settled : Kind.ofAlias c.kind.name = c.kind
  reference : ∀ r ∈ c.reference, r.Canonical
  defaultValue : ∀ v ∈ c.defaultValue,
    v ≠ "" ∧ ',' ∉ v.toList ∧ ':' ∉ v.toList ∧ '\n' ∉ v.toList

variable {c : Column} {cs : List Column} {part field : List Char} {line : String}

theorem Canonical.modifiers (h : Canonical c) : ∀ m ∈ c.modifiers, m.Canonical := by
  intro m hm
  simp only [Column.modifiers, List.mem_append, Option.mem_toList,
    Option.map_eq_some_iff] at hm
  rcases hm with (((hm | hm) | hm) | hm) | ⟨v, hv, rfl⟩
  · split at hm
    · cases List.mem_singleton.mp hm
      exact .primaryKey
    · cases hm
  · split at hm
    · cases List.mem_singleton.mp hm
      exact .autoIncrement
    · cases hm
  · split at hm
    · cases List.mem_singleton.mp hm
      exact .nullable
    · cases hm
  · split at hm
    · rename_i hr
      cases List.mem_singleton.mp hm
      obtain ⟨hn, ht, hc⟩ := h.reference _ hr
      exact .references hn ht hc
    · cases hm
  · obtain ⟨hn, hc, hd, hl⟩ := h.defaultValue v hv
    rw [← String.ofList_toList (s := v)]
    exact .defaults (by rwa [Ne, String.toList_eq_nil_iff]) hc hd hl

theorem Canonical.foldl_modifiers (h : Canonical c) :
    c.modifiers.foldl Modifier.apply { name := c.name, kind := c.kind } = c := by
  have hr := h.reference
  obtain ⟨name, kind, pk, auto, null, reference, default⟩ := c
  have hs : reference = none ∨ ∃ t n, reference = some ⟨some t, some n⟩ := by
    cases reference with
    | none => exact Or.inl rfl
    | some r =>
      obtain ⟨hn, ht, hc⟩ := hr r rfl
      exact Or.inr ⟨_, _, rfl⟩
  rcases hs with rfl | ⟨t, n, rfl⟩ <;> cases pk <;> cases auto <;> cases null <;>
    cases default <;> rfl

theorem Canonical.trimmed_text (h : Canonical c) : Text.Trimmed c.text := by
  refine Text.trimmed_join ?_
  simp only [List.forall_mem_cons, List.forall_mem_map]
  exact ⟨⟨h.name.ne_nil, h.name.trimmed⟩, ⟨h.kind.ne_nil, h.kind.trimmed⟩, fun m hm =>
    ⟨(h.modifiers m hm).isField_text.ne_nil, (h.modifiers m hm).isField_text.trimmed⟩⟩

theorem Canonical.no_comma_text (h : Canonical c) : ',' ∉ c.text := by
  intro hm
  rcases Text.mem_join hm with hs | ⟨p, hp, hc⟩
  · exact absurd hs (by decide)
  · simp only [List.mem_cons, List.mem_map] at hp
    rcases hp with rfl | rfl | ⟨m, hm, rfl⟩
    · exact h.name.no_comma hc
    · exact h.kind.no_comma hc
    · exact (h.modifiers m hm).isField_text.no_comma hc

theorem Canonical.text_ne_nil (h : Canonical c) : c.text ≠ [] :=
  Text.join_ne_nil _ List.mem_cons_self h.name.ne_nil

theorem Canonical.fields_text (h : Canonical c) :
    fields c.text = c.name.toList :: c.kind.name.toList :: c.modifiers.map Modifier.text := by
  have hf : ∀ f ∈ c.name.toList :: c.kind.name.toList :: c.modifiers.map Modifier.text,
      IsField f := by
    simp only [List.forall_mem_cons, List.forall_mem_map]
    exact ⟨h.name, h.kind, fun m hm => (h.modifiers m hm).isField_text⟩
  rw [fields, text, Text.split_join (List.cons_ne_nil _ _) fun f hm => (hf f hm).no_colon]
  exact Text.map_trim fun f hm => (hf f hm).trimmed

theorem Canonical.defines_text (h : Canonical c) : Defines c.text c := by
  have hm : List.Forall₂ Modifier.Reads (c.modifiers.map Modifier.text) c.modifiers := by
    rw [List.forall₂_map_left_iff, List.forall₂_same]
    exact fun m hm => (h.modifiers m hm).reads_text
  have := Defines.intro h.fields_text h.name.ne_nil h.kind.ne_nil hm
  rwa [String.ofList_toList, String.ofList_toList, h.settled, h.foldl_modifiers] at this

theorem parts_print (h : ∀ c ∈ cs, Canonical c) : parts (print cs) = cs.map text := by
  rw [parts, print, String.toList_ofList]
  rcases eq_or_ne cs [] with rfl | hn
  · decide
  rw [Text.split_join (by simpa using hn) (by simpa using fun c hc => (h c hc).no_comma_text),
    Text.map_trim (by simpa using fun c hc => (h c hc).trimmed_text), List.filter_eq_self]
  simpa using fun c hc => (h c hc).text_ne_nil

/-- Canonical columns are read back from the line that writes them. -/
theorem parse_print (h : ∀ c ∈ cs, Canonical c) : parse (print cs) = .ok cs := by
  rw [parse_eq_ok, parts_print h, List.forall₂_map_left_iff, List.forall₂_same]
  exact fun c hc => (h c hc).defines_text

instance (cs : List Char) : Decidable (IsField cs) :=
  decidable_of_iff (cs ≠ [] ∧ Text.Trimmed cs ∧ ',' ∉ cs ∧ ':' ∉ cs)
    ⟨fun ⟨hn, ht, hc, hd⟩ => ⟨hn, ht, hc, hd⟩, fun ⟨hn, ht, hc, hd⟩ => ⟨hn, ht, hc, hd⟩⟩

namespace Kind

theorem isField_name_of_known : ∀ k ∈ known, IsField k.name.toList := by decide

theorem ofAlias_name_of_known : ∀ k ∈ known, ofAlias k.name = k := by decide +kernel

theorem known_of_mem_aliases : ∀ a ∈ aliases, a.2 ∈ known := by decide

/-- A kind that a line calls by name is a known one, or is called by the lowered name. -/
theorem ofAlias_cases (s : String) : ofAlias s ∈ known ∨
    ofAlias s = other (String.ofList (Text.lower s.toList)) ∧
      aliases.lookup (String.ofList (Text.lower s.toList)) = none := by
  rw [ofAlias]
  cases h : aliases.lookup (String.ofList (Text.lower s.toList)) with
  | none => exact Or.inr ⟨rfl, rfl⟩
  | some k =>
    obtain ⟨pre, post, he, -⟩ := List.lookup_eq_some_iff.mp h
    have hm : (String.ofList (Text.lower s.toList), k) ∈ aliases := he ▸ by simp
    exact Or.inl (known_of_mem_aliases _ hm)

theorem ofAlias_name_ofAlias (s : String) : ofAlias (ofAlias s).name = ofAlias s := by
  rcases ofAlias_cases s with h | ⟨h, hl⟩
  · exact ofAlias_name_of_known _ h
  · rw [h, name, ofAlias, String.toList_ofList, Text.lower_lower, hl]
    rfl

theorem spared_separators : Text.spared [(0x2C, 0x2C), (0x3A, 0x3A)] = true := by decide +kernel

theorem isField_lower {cs : List Char} (h : IsField cs) : IsField (Text.lower cs) where
  ne_nil := mt Text.lower_eq_nil.mp h.ne_nil
  trimmed := Text.trimmed_lower h.trimmed
  no_comma := mt (Text.mem_of_mem_lower spared_separators (by decide)) h.no_comma
  no_colon := mt (Text.mem_of_mem_lower spared_separators (by decide)) h.no_colon

theorem isField_name_ofAlias {cs : List Char} (h : IsField cs) :
    IsField (ofAlias (String.ofList cs)).name.toList := by
  rcases ofAlias_cases (String.ofList cs) with hk | ⟨hk, -⟩
  · exact isField_name_of_known _ hk
  · rw [hk, name, String.toList_ofList, String.toList_ofList]
    exact isField_lower h

end Kind

theorem Canonical.ofFields {name type : List Char} (hn : IsField name) (ht : IsField type) :
    Canonical { name := String.ofList name, kind := .ofAlias (String.ofList type) } where
  name := by rwa [String.toList_ofList]
  kind := Kind.isField_name_ofAlias ht
  settled := Kind.ofAlias_name_ofAlias _
  reference := by simp
  defaultValue := by simp

theorem Canonical.apply {m : Modifier} (hc : Canonical c) (hm : m.Canonical) :
    Canonical (m.apply c) := by
  obtain ⟨hn, hk, hs, hr, hd⟩ := hc
  cases hm with
  | primaryKey => exact ⟨hn, hk, hs, hr, hd⟩
  | autoIncrement => exact ⟨hn, hk, hs, hr, hd⟩
  | nullable => exact ⟨hn, hk, hs, hr, hd⟩
  | references hl ht hc =>
    refine ⟨hn, hk, hs, fun r he => ?_, hd⟩
    cases he
    exact .intro hl ht hc
  | defaults hv hc hd hl =>
    refine ⟨hn, hk, hs, hr, fun v he => ?_⟩
    cases he
    rw [Ne, ← String.toList_eq_nil_iff, String.toList_ofList]
    exact ⟨hv, hc, hd, hl⟩

theorem Canonical.foldl_apply {ms : List Modifier} (hc : Canonical c)
    (hm : ∀ m ∈ ms, m.Canonical) : Canonical (ms.foldl Modifier.apply c) := by
  induction ms generalizing c with
  | nil => exact hc
  | cons m ms ih =>
    obtain ⟨h, hs⟩ := List.forall_mem_cons.mp hm
    exact ih (hc.apply h) hs

theorem isField_of_mem_fields (hp : ',' ∉ part) (hf : field ∈ fields part) (hn : field ≠ []) :
    IsField field := by
  obtain ⟨p, hm, rfl⟩ := List.mem_map.mp hf
  exact ⟨hn, Text.trimmed_trim p,
    fun h => hp (Text.mem_of_mem_split hm (Text.mem_of_mem_trim h)),
    fun h => Text.not_mem_of_mem_split hm (Text.mem_of_mem_trim h)⟩

theorem Modifier.Reads.ne_nil {m : Modifier} (h : Modifier.Reads field m) : field ≠ [] := by
  have hw (words : List String) (hs : ∀ k ∈ words, k ≠ "")
      (h : String.ofList (Text.lower field) ∈ words) : field ≠ [] := by
    rintro rfl
    exact hs _ h rfl
  cases h with
  | primaryKey h => exact hw _ (by decide) h
  | autoIncrement h => exact hw _ (by decide) h
  | nullable h => exact hw _ (by decide) h
  | references => simp [call]
  | defaults => simp [call]

theorem Defines.canonical (hp : ',' ∉ part) (h : Defines part c) : Canonical c := by
  obtain ⟨hf, hn, ht, hm⟩ := h
  rename_i name type rest modifiers
  have hi : ∀ f ∈ name :: type :: rest, f ≠ [] → IsField f :=
    fun f hm hn => isField_of_mem_fields hp (hf ▸ hm) hn
  simp only [List.forall_mem_cons] at hi
  obtain ⟨hname, htype, hrest⟩ := hi
  refine (Canonical.ofFields (hname hn) (htype ht)).foldl_apply fun m hmem => ?_
  obtain ⟨f, hr, hread⟩ := exists_of_mem_forall₂ hm hmem
  have hfield := hrest f hr hread.ne_nil
  exact hread.canonical hfield.no_comma hfield.no_colon

theorem no_comma_of_mem_parts (h : part ∈ parts line) : ',' ∉ part := by
  obtain ⟨hm, -⟩ := List.mem_filter.mp h
  obtain ⟨p, hp, rfl⟩ := List.mem_map.mp hm
  exact fun hc => Text.not_mem_of_mem_split hp (Text.mem_of_mem_trim hc)

/-- Reading yields canonical columns. -/
theorem canonical_of_parse (h : parse line = .ok cs) : ∀ c ∈ cs, Canonical c := by
  intro c hc
  obtain ⟨part, hp, hd⟩ := exists_of_mem_forall₂ (parse_eq_ok.mp h) hc
  exact hd.canonical (no_comma_of_mem_parts hp)

/-- Canonical columns are read back from the line that writes them, and reading yields no others,
so that the columns of a line are read back as well. -/
theorem parse_print_round_trip :
    (∀ cs : List Column, (∀ c ∈ cs, Canonical c) → parse (print cs) = .ok cs) ∧
    ∀ (line : String) (cs : List Column), parse line = .ok cs →
      (∀ c ∈ cs, Canonical c) ∧ parse (print cs) = .ok cs :=
  ⟨fun _ h => parse_print h, fun _ _ h =>
    ⟨canonical_of_parse h, parse_print (canonical_of_parse h)⟩⟩

end Scaffold.Column
