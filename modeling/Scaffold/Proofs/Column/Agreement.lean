import Scaffold.Proofs.Column.Names
import Scaffold.Proofs.Drift.Class

/-! # One column in two forms

What the definition of a column and its getter say about null and about the default is read off
their texts. They agree on columns that are no keys; the definition of a key says neither.
-/

namespace Scaffold

open Name (isClassName isStatementName isWordChar)

namespace Text

def skip (part : String) (cs : List Char) : List Char := (after? part.toList cs).getD cs

def starts (part : String) (cs : List Char) : Bool := part.toList.isPrefixOf cs

variable {part : String} {cs : List Char}

theorem starts_append (part : String) (cs : List Char) : starts part (part.toList ++ cs) = true :=
  List.isPrefixOf_iff_prefix.mpr (List.prefix_append _ _)

theorem skip_append (part : String) (cs : List Char) : skip part (part.toList ++ cs) = cs := by
  have hp : part.toList.isPrefixOf (part.toList ++ cs) = true := starts_append part cs
  simp [skip, after?, hp]

theorem skip_of_not_starts (h : starts part cs = false) : skip part cs = cs := by
  unfold starts at h
  simp [skip, after?, h]

theorem skip_optional (b : Bool) (h : starts part cs = false) :
    skip part ((if b then part else "").toList ++ cs) = cs := by
  cases b with
  | true => exact skip_append part cs
  | false => exact skip_of_not_starts h

theorem starts_optional (b : Bool) (h : starts part cs = false) :
    starts part ((if b then part else "").toList ++ cs) = b := by
  cases b with
  | true => exact starts_append part cs
  | false => exact h

end Text

open Text (skip starts)

namespace Sql

/-- What stands behind the storage in the line that defines a column. -/
def clauses (line : List Char) : List Char :=
  let rest := (line.drop 2).dropWhile isWordChar
  match Text.after? " UUID DEFAULT gen_random_uuid()".toList rest with
  | some rest => rest
  | none => (rest.drop 1).dropWhile isWordChar

def admitsNull (line : List Char) : Bool :=
  !starts " PRIMARY KEY" (clauses line) && !starts " NOT NULL" (clauses line)

def carries (l : Column.Literal) (line : List Char) : Bool :=
  starts (" DEFAULT " ++ l.sql) (skip " NOT NULL" (skip " PRIMARY KEY" (clauses line)))

end Sql

namespace Drift

/-- What stands behind the first pair of brackets. -/
def refinements (line : List Char) : List Char := (line.dropWhile (· != '(')).drop 2

def isNullable (line : List Char) : Bool :=
  starts ".nullable()" (skip ".autoIncrement()" (refinements line))

def hasDefault (line : List Char) : Bool :=
  starts ".withDefault(" (skip ".nullable()" (skip ".autoIncrement()" (refinements line)))

end Drift

namespace Sql

variable {d : Definition} {rest : List Char}

def closing (d : Definition) : List Char :=
  (Definition.defaultText d.default).toList ++ (Definition.referenceText d.references).toList

def behind (d : Definition) : List Char :=
  (if d.primaryKey then " PRIMARY KEY" else "").toList ++
    ((if d.notNull then " NOT NULL" else "").toList ++ closing d)

theorem toList_defaultText_append (l : Column.Literal) (cs : List Char) :
    (Definition.defaultText (some l)).toList ++ cs =
      " DEFAULT ".toList ++ (l.sql.toList ++ cs) := by
  rw [Definition.defaultText, String.toList_append, List.append_assoc]

theorem referenceText_cases (t : Option (String × String)) :
    (Definition.referenceText t).toList = [] ∨
      ∃ cs, (Definition.referenceText t).toList = " REFERENCES ".toList ++ cs := by
  cases t with
  | none => exact Or.inl rfl
  | some t =>
    obtain ⟨table, column⟩ := t
    right
    have hblank : " REFERENCES ".toList = " REFERENCES".toList ++ [' '] := rfl
    simp only [Definition.toList_referenceText, hblank, List.append_assoc, List.singleton_append]
    exact ⟨_, rfl⟩

theorem starts_closing {part : String} (hn : starts part [] = false)
    (hd : ∀ cs, starts part (" DEFAULT ".toList ++ cs) = false)
    (hr : ∀ cs, starts part (" REFERENCES ".toList ++ cs) = false) :
    starts part (closing d) = false := by
  unfold closing
  cases d.default with
  | some l =>
    rw [toList_defaultText_append]
    exact hd _
  | none =>
    obtain ht | ⟨cs, ht⟩ := referenceText_cases d.references
    · rw [ht]
      exact hn
    · rw [ht]
      exact hr cs

theorem starts_open : starts " PRIMARY KEY"
    ((if d.notNull then " NOT NULL" else "").toList ++ closing d) = false := by
  cases d.notNull with
  | true => rfl
  | false => exact starts_closing rfl (fun _ => rfl) fun _ => rfl

theorem head?_append_blank {cs : List Char} (hc : ∀ x ∈ cs.head?, x = ' ')
    (hr : ∀ x ∈ rest.head?, x = ' ') : ∀ x ∈ (cs ++ rest).head?, x = ' ' := by
  cases cs with
  | nil => exact hr
  | cons x cs => exact hc

theorem head?_behind (d : Definition) : ∀ x ∈ (behind d).head?, x = ' ' := by
  have hkey : ∀ x ∈ (if d.primaryKey then " PRIMARY KEY" else "").toList.head?, x = ' ' := by
    cases d.primaryKey <;> simp
  have hnull : ∀ x ∈ (if d.notNull then " NOT NULL" else "").toList.head?, x = ' ' := by
    cases d.notNull <;> simp
  have hdefault : ∀ x ∈ (Definition.defaultText d.default).toList.head?, x = ' ' := by
    cases d.default with
    | none => simp [Definition.defaultText]
    | some l => simp [Definition.defaultText]
  have htarget : ∀ x ∈ (Definition.referenceText d.references).toList.head?, x = ' ' := by
    obtain ht | ⟨cs, ht⟩ := referenceText_cases d.references <;> simp [ht]
  exact head?_append_blank hkey (head?_append_blank hnull (head?_append_blank hdefault htarget))

theorem dropWhile_word {w : List Char} (hw : ∀ x ∈ w, isWordChar x = true)
    (hr : ∀ x ∈ rest.head?, x = ' ') : (w ++ rest).dropWhile isWordChar = rest := by
  rw [List.dropWhile_append_of_pos hw]
  cases rest with
  | nil => rfl
  | cons x rest =>
    obtain rfl := hr x rfl
    rfl

theorem isWordChar_sqlName {k : Column.Kind} : ∀ x ∈ k.sqlName.toList, isWordChar x = true :=
  fun _ => Name.isWordChar_of_mem (isIdentifier_sqlName k)

/-- Of the storages only the one that makes unique keys is written with more than a word. -/
theorem clauses_word {name word : String} (hw : ∀ x ∈ word.toList, isWordChar x = true)
    (hu : starts " UUID DEFAULT gen_random_uuid()" (' ' :: (word.toList ++ rest)) = false)
    (hn : ∀ x ∈ name.toList, isWordChar x = true)
    (hr : ∀ x ∈ rest.head?, x = ' ') :
    clauses (' ' :: ' ' :: (name.toList ++ ' ' :: (word.toList ++ rest))) = rest := by
  have hname : (name.toList ++ ' ' :: (word.toList ++ rest)).dropWhile isWordChar =
      ' ' :: (word.toList ++ rest) := dropWhile_word hn (by simp)
  unfold starts at hu
  simp only [clauses, List.drop_succ_cons, List.drop_zero, hname, Text.after?, hu,
    Bool.false_eq_true, if_false]
  exact dropWhile_word hw hr

theorem clauses_generated {name : String} (hn : ∀ x ∈ name.toList, isWordChar x = true) :
    clauses (' ' :: ' ' :: (name.toList ++ ' ' :: (Storage.generatedUuid.text.toList ++ rest))) =
      rest := by
  have hname : (name.toList ++ ' ' :: (Storage.generatedUuid.text.toList ++ rest)).dropWhile
      isWordChar = ' ' :: (Storage.generatedUuid.text.toList ++ rest) :=
    dropWhile_word hn (by simp)
  simp only [clauses, List.drop_succ_cons, List.drop_zero, hname]
  rfl

end Sql

namespace Column

variable {c : Column} {name : String}

theorem literal?_uuid {l : Literal} (hk : c.kind = .uuid) (hl : c.literal? = some l) :
    l = .now ∨ ∃ t, l = .string t := by
  obtain ⟨v, -, rfl⟩ := Option.map_eq_some_iff.mp hl
  rw [hk, Literal.ofDefault]
  by_cases hv : Literal.nowTokens.contains v = true
  · exact Or.inl (if_pos hv)
  · right
    rw [if_neg hv]
    exact ⟨v, rfl⟩

theorem behind_of_key (h : c.primaryKey = true) :
    Sql.behind (definition c name) = " PRIMARY KEY".toList ++ Sql.closing (definition c name) := by
  simp [Sql.behind, definition, h]

theorem behind_of_notNull (hk : c.primaryKey = false) (h : c.nullable = false) :
    Sql.behind (definition c name) = " NOT NULL".toList ++ Sql.closing (definition c name) := by
  simp [Sql.behind, definition, hk, h]

theorem behind_of_nullable (hk : c.primaryKey = false) (h : c.nullable = true) :
    Sql.behind (definition c name) = Sql.closing (definition c name) := by
  simp [Sql.behind, definition, hk, h]

/-- A column of unique keys has no default that makes them. -/
theorem not_starts_uuid (hk : c.kind = .uuid) :
    starts " UUID DEFAULT gen_random_uuid()"
      (' ' :: (Kind.uuid.sqlName.toList ++ Sql.behind (definition c name))) = false := by
  cases hkey : c.primaryKey with
  | true =>
    rw [behind_of_key hkey]
    rfl
  | false =>
    cases hnull : c.nullable with
    | false =>
      rw [behind_of_notNull hkey hnull]
      rfl
    | true =>
      have hd : (definition c name).default = c.literal? := by simp [definition, hkey]
      rw [behind_of_nullable hkey hnull, Sql.closing, hd]
      cases hl : c.literal? with
      | none =>
        obtain ht | ⟨cs, ht⟩ := Sql.referenceText_cases (definition c name).references
        · rw [ht]
          rfl
        · rw [ht]
          rfl
      | some l =>
        rw [Sql.toList_defaultText_append]
        obtain rfl | ⟨t, rfl⟩ := literal?_uuid hk hl
        · rfl
        · rw [Literal.sql, String.toList_append, String.toList_append]
          rfl

theorem not_starts_storage (hk : c.kind ≠ .uuid) (cs : List Char) :
    starts " UUID DEFAULT gen_random_uuid()" (' ' :: (c.kind.sqlName.toList ++ cs)) = false := by
  cases h : c.kind with
  | uuid => exact absurd h hk
  | other name =>
    have htext : starts " UUID DEFAULT gen_random_uuid()" (' ' :: ("TEXT".toList ++ cs)) = false :=
      rfl
    exact htext
  | _ => rfl

/-- The clauses of a column's definition are read behind its storage. -/
theorem clauses_definition (hn : ∀ x ∈ name.toList, isWordChar x = true) :
    Sql.clauses (definition c name).text.toList = Sql.behind (definition c name) := by
  have htext : (definition c name).text.toList = ' ' :: ' ' :: (name.toList ++ ' ' ::
      ((definition c name).storage.text.toList ++ Sql.behind (definition c name))) := by
    rw [Sql.Definition.toList_text]
    simp [Sql.behind, Sql.closing, definition]
  have hhead := Sql.head?_behind (definition c name)
  rw [htext]
  by_cases hcounts : (c.primaryKey && c.autoIncrement) = true
  · by_cases hk : c.kind = .uuid
    · have hstorage : (definition c name).storage = .generatedUuid := by
        simp [definition, hcounts, hk]
      rw [hstorage]
      exact Sql.clauses_generated hn
    · have hstorage : (definition c name).storage = .serial := by
        simp [definition, hcounts, hk]
      rw [hstorage]
      exact Sql.clauses_word (List.all_eq_true.mp (by decide)) rfl hn hhead
  · have hstorage : (definition c name).storage = .kind c.kind := by
      simp [definition, hcounts]
    rw [hstorage]
    refine Sql.clauses_word Sql.isWordChar_sqlName ?_ hn hhead
    by_cases hk : c.kind = .uuid
    · rw [hk]
      exact not_starts_uuid hk
    · exact not_starts_storage hk _

theorem admitsNull_definition (hn : ∀ x ∈ name.toList, isWordChar x = true) :
    Sql.admitsNull (definition c name).text.toList = (!c.primaryKey && c.nullable) := by
  rw [Sql.admitsNull, clauses_definition hn, Sql.behind, Text.starts_optional _ Sql.starts_open]
  cases hkey : c.primaryKey with
  | true => simp [definition, hkey]
  | false =>
    have hclosing : starts " NOT NULL" (Sql.closing (definition c name)) = false :=
      Sql.starts_closing rfl (fun _ => rfl) fun _ => rfl
    have hnull := Text.starts_optional (definition c name).notNull hclosing
    simp_all [definition]

theorem closing_definition (hn : ∀ x ∈ name.toList, isWordChar x = true) :
    skip " NOT NULL" (skip " PRIMARY KEY" (Sql.clauses (definition c name).text.toList)) =
      Sql.closing (definition c name) := by
  rw [clauses_definition hn, Sql.behind, Text.skip_optional _ Sql.starts_open]
  exact Text.skip_optional _ (Sql.starts_closing rfl (fun _ => rfl) fun _ => rfl)

theorem carries_definition {l : Literal} (hn : ∀ x ∈ name.toList, isWordChar x = true)
    (hl : c.literal? = some l) :
    Sql.carries l (definition c name).text.toList = !c.primaryKey := by
  rw [Sql.carries, closing_definition hn, Sql.closing]
  cases hkey : c.primaryKey with
  | true =>
    have hd : (definition c name).default = none := by simp [definition, hkey]
    rw [hd]
    obtain ht | ⟨cs, ht⟩ := Sql.referenceText_cases (definition c name).references
    · rw [ht, starts, String.toList_append]
      rfl
    · rw [ht, starts, String.toList_append]
      rfl
  | false =>
    have hd : (definition c name).default = some l := by simp [definition, hkey, hl]
    rw [hd]
    exact Text.starts_append _ _

theorem refinements_getter (hn : ∀ x ∈ name.toList, isWordChar x = true) :
    Drift.refinements (getter c name).text.toList =
      (if c.primaryKey && c.autoIncrement then ".autoIncrement()" else "").toList ++
        ((if c.nullable then ".nullable()" else "").toList ++
          ((Drift.defaultText c.literal?).toList ++ "();".toList)) := by
  have hbuilder := Drift.isIdentifier_builder c.kind
  have hword {x : Char} (hx : isWordChar x = true) : (x != '(') = true := by
    rw [bne_iff_ne]
    rintro rfl
    exact absurd hx (by decide)
  have hline : ∀ x ∈ ' ' :: ' ' :: ((c.kind.builder ++ "Column").toList ++ (" get".toList ++
      (' ' :: name.toList ++ (" =>".toList ++ ' ' :: c.kind.builder.toList)))),
      (x != '(') = true := by
    simp only [List.forall_mem_cons, List.forall_mem_append]
    exact ⟨by decide, by decide, fun x hx => hword (Name.isWordChar_of_mem hbuilder.2 hx),
      List.all_eq_true.mp (by decide), ⟨by decide, fun x hx => hword (hn x hx)⟩,
      List.all_eq_true.mp (by decide), by decide,
      fun x hx => hword (Name.isWordChar_of_mem hbuilder.1 hx)⟩
  have htext : (getter c name).text.toList = (' ' :: ' ' :: ((c.kind.builder ++ "Column").toList ++
      (" get".toList ++ (' ' :: name.toList ++ (" =>".toList ++ ' ' :: c.kind.builder.toList))))) ++
      '(' :: ')' :: ((if c.primaryKey && c.autoIncrement then ".autoIncrement()" else "").toList ++
        ((if c.nullable then ".nullable()" else "").toList ++
          ((Drift.defaultText c.literal?).toList ++ "();".toList))) := by
    have hi : "." ++ "autoIncrement" ++ "()" = ".autoIncrement()" := by decide
    have hnull : "." ++ "nullable" ++ "()" = ".nullable()" := by decide
    rw [Drift.toList_text, hi, hnull]
    simp only [getter, List.append_assoc, List.cons_append, List.nil_append]
    rfl
  rw [htext, Drift.refinements, List.dropWhile_append_of_pos hline]
  rfl

theorem starts_default (part : String) (hn : starts part "();".toList = false)
    (hd : ∀ cs, starts part (".withDefault(".toList ++ cs) = false) (l : Option Literal) :
    starts part ((Drift.defaultText l).toList ++ "();".toList) = false := by
  cases l with
  | none => exact hn
  | some l =>
    simp only [Drift.defaultText, String.toList_append, List.append_assoc]
    exact hd _

theorem starts_calls : starts ".autoIncrement()"
    ((if c.nullable then ".nullable()" else "").toList ++
      ((Drift.defaultText c.literal?).toList ++ "();".toList)) = false := by
  cases c.nullable with
  | true => rfl
  | false => exact starts_default _ rfl (fun _ => rfl) _

theorem isNullable_getter (hn : ∀ x ∈ name.toList, isWordChar x = true) :
    Drift.isNullable (getter c name).text.toList = c.nullable := by
  rw [Drift.isNullable, refinements_getter hn, Text.skip_optional _ starts_calls]
  exact Text.starts_optional _ (starts_default _ rfl (fun _ => rfl) _)

theorem hasDefault_getter (hn : ∀ x ∈ name.toList, isWordChar x = true) :
    Drift.hasDefault (getter c name).text.toList = c.defaultValue.isSome := by
  rw [Drift.hasDefault, refinements_getter hn, Text.skip_optional _ starts_calls,
    Text.skip_optional _ (starts_default _ rfl (fun _ => rfl) _), literal?]
  cases c.defaultValue with
  | none => rfl
  | some v =>
    simp only [Option.map_some, Drift.defaultText, String.toList_append, List.append_assoc]
    exact Text.starts_append _ _

theorem isWordChar_style {accepts : List Char → Bool} {style : Place → String → String}
    {table : String} {cs : List Column} (ha : Accepts accepts style)
    (h : firstRefused accepts table cs = none) (hc : c ∈ cs) :
    ∀ x ∈ (style .column c.name).toList, isWordChar x = true := by
  have hmem : (Place.column, c.name) ∈ names table cs :=
    List.mem_cons_of_mem _ (List.mem_map.mpr ⟨c, hc, rfl⟩)
  have hname : accepts c.name.toList = true := firstRefused_eq_none.mp h _ hmem
  exact fun _ => Name.isWordChar_of_mem (ha.isIdentifier_style .column hname)

theorem described_alike {snake camel : String} (hs : ∀ x ∈ snake.toList, isWordChar x = true)
    (hd : ∀ x ∈ camel.toList, isWordChar x = true) :
    (Sql.admitsNull (definition c snake).text.toList ↔
      c.primaryKey = false ∧ Drift.isNullable (getter c camel).text.toList) ∧
    ((∃ l, c.literal? = some l ∧ Sql.carries l (definition c snake).text.toList) ↔
      c.primaryKey = false ∧ Drift.hasDefault (getter c camel).text.toList) ∧
    (Drift.isNullable (getter c camel).text.toList ↔ c.nullable) ∧
    (Drift.hasDefault (getter c camel).text.toList ↔ c.defaultValue.isSome) := by
  rw [admitsNull_definition hs, isNullable_getter hd, hasDefault_getter hd]
  refine ⟨by simp, ?_, Iff.rfl, Iff.rfl⟩
  have hliteral : c.literal?.isSome = c.defaultValue.isSome := Option.isSome_map
  rw [← hliteral]
  cases hl : c.literal? with
  | none => simp
  | some l => simp [carries_definition hs hl]

/-- A column that is no key may be null in both forms of its table or in neither, and has its
default in both or in neither. The definition of a key is never null and has no default, and its
getter has what the column says. -/
theorem forms_describe_alike {table sql dart : String} {cs : List Column}
    (hs : Sql.createTable table cs = .ok sql) (hd : Drift.tableClass table cs = .ok dart) :
    ∃ t u, Sql.Table.ofColumns table cs = .ok t ∧ sql = t.text ∧
      Drift.Table.ofColumns table cs = .ok u ∧ dart = u.text ∧
      t.definitions.length = cs.length ∧ u.getters.length = cs.length ∧
      ∀ (i : Nat) (c : Column) (d : Sql.Definition) (g : Drift.Getter), cs[i]? = some c →
        t.definitions[i]? = some d → u.getters[i]? = some g →
        (Sql.admitsNull d.text.toList ↔ c.primaryKey = false ∧ Drift.isNullable g.text.toList) ∧
        ((∃ l, c.literal? = some l ∧ Sql.carries l d.text.toList) ↔
          c.primaryKey = false ∧ Drift.hasDefault g.text.toList) ∧
        (Drift.isNullable g.text.toList ↔ c.nullable) ∧
        (Drift.hasDefault g.text.toList ↔ c.defaultValue.isSome) := by
  obtain ⟨t, ht, rfl⟩ := map_eq_ok.mp hs
  obtain ⟨u, hu, rfl⟩ := map_eq_ok.mp hd
  refine ⟨t, u, ht, rfl, hu, rfl, ?_⟩
  rw [definitions_eq] at ht
  rw [getters_eq] at hu
  cases hst : firstRefused isStatementName table cs with
  | some r =>
    rw [hst] at ht
    cases ht
  | none =>
    cases hcl : firstRefused isClassName table cs with
    | some r =>
      rw [hcl] at hu
      cases hu
    | none =>
      rw [hst] at ht
      rw [hcl] at hu
      obtain rfl := Except.ok.inj ht
      obtain rfl := Except.ok.inj hu
      refine ⟨by simp, by simp, fun i c d g hc hd hg => ?_⟩
      rw [List.getElem?_map, hc] at hd hg
      obtain rfl := Option.some.inj hd
      obtain rfl := Option.some.inj hg
      have hmem := List.mem_of_getElem? hc
      have hsnake := isWordChar_style accepts_statement hst hmem
      have hcamel := isWordChar_style accepts_class hcl hmem
      exact described_alike hsnake hcamel

def account : List Column :=
  [{ name := "id", kind := .uuid, primaryKey := true, autoIncrement := true },
    { name := "nickName", kind := .text, nullable := true, defaultValue := some "" }]

theorem forms_describe_alike_account :
    Sql.createTable "account" account = .ok ("CREATE TABLE account (\n" ++
      "  id UUID DEFAULT gen_random_uuid() PRIMARY KEY,\n" ++
      "  nick_name TEXT DEFAULT ''\n);") ∧
    Drift.tableClass "account" account = .ok ("class Account extends Table \x7b\n" ++
      "  textColumn get id => text().autoIncrement()();\n" ++
      "  textColumn get nickName => text().nullable().withDefault(const Constant(''))();\n\x7d") ∧
    (Sql.admitsNull "  nick_name TEXT DEFAULT ''".toList ↔ Drift.isNullable
      "  textColumn get nickName => text().nullable().withDefault(const Constant(''))();".toList) := by
  have hsql : Sql.createTable "account" account = .ok ("CREATE TABLE account (\n" ++
      "  id UUID DEFAULT gen_random_uuid() PRIMARY KEY,\n" ++
      "  nick_name TEXT DEFAULT ''\n);") := by decide +kernel
  have hdart : Drift.tableClass "account" account = .ok ("class Account extends Table \x7b\n" ++
      "  textColumn get id => text().autoIncrement()();\n" ++
      "  textColumn get nickName => text().nullable().withDefault(const Constant(''))();\n\x7d") := by
    decide +kernel
  obtain ⟨t, u, ht, -, hu, -, -, -, h⟩ := forms_describe_alike hsql hdart
  have htable : Sql.Table.ofColumns "account" account =
      .ok ⟨"account", account.map fun c => definition c (Name.snake c.name)⟩ := by decide +kernel
  have hclass : Drift.Table.ofColumns "account" account =
      .ok ⟨"Account", account.map fun c => getter c (Name.camel c.name)⟩ := by decide +kernel
  cases htable.symm.trans ht
  cases hclass.symm.trans hu
  have hnull := (h 1 _ _ _ rfl rfl rfl).1
  simp only [true_and] at hnull
  exact ⟨hsql, hdart, hnull⟩

def looseKey : Column where
  name := "id"
  kind := .integer
  primaryKey := true
  nullable := true
  defaultValue := some "1"

/-- A key that is said to be nullable and to have a default is described in two ways. -/
theorem key_described_apart :
    Sql.createTable "t" [looseKey] = .ok "CREATE TABLE t (\n  id INTEGER PRIMARY KEY\n);" ∧
      Drift.tableClass "t" [looseKey] = .ok ("class T extends Table \x7b\n" ++
        "  integerColumn get id => integer().nullable().withDefault(const Constant(1))();\n\x7d") ∧
      Sql.admitsNull "  id INTEGER PRIMARY KEY".toList = false ∧
      Sql.carries (.number "1") "  id INTEGER PRIMARY KEY".toList = false ∧
      Drift.isNullable
        "  integerColumn get id => integer().nullable().withDefault(const Constant(1))();".toList ∧
      Drift.hasDefault
        "  integerColumn get id => integer().nullable().withDefault(const Constant(1))();".toList := by
  refine ⟨by decide +kernel, by decide +kernel, ?_⟩
  repeat rw [String.toList_ofList]
  decide +kernel

end Column

end Scaffold
