import Scaffold.Proofs.Column.Printing
import Scaffold.Proofs.Text.Code
import Scaffold.Sql.Table

/-! # The tokens of table definitions

What the lexer reads in the statement that creates a table. Every text of a column line that is not
a name stays inside one literal, so that no line changes the shape of the statement. Only the
default of a numeric column is written as it was given. If it is a decimal number, it is one token
of SQL that has numbers; SQL without them has no token for it.
-/

namespace Scaffold

open Column (Literal)

/-- Whether a default of a numeric column is a decimal number, unless it is the current time. -/
def Column.NumeralDefault (c : Column) : Prop :=
  c.kind.isNumeric = true → ∀ v ∈ c.defaultValue, v ∉ Literal.nowTokens →
    Code.isNumeral v.toList = true

instance (c : Column) : Decidable c.NumeralDefault := inferInstanceAs (Decidable (_ → _))

namespace Sql

open Code

/-- The part of SQL that table definitions use, with numbers or without. -/
def dialect (numbers : Bool) : Dialect where
  marks := ['(', ')', ',', ';', '.']
  doubles := true
  numbers := numbers
  apart := by decide

/-- The tokens of a text, which must do without numbers. -/
def lex (cs : List Char) : Option (List Token) := Code.lex (dialect false) cs

def storageTokens (c : Column) : List Token :=
  if c.primaryKey && c.autoIncrement then
    if c.kind = .uuid then
      [.word "UUID", .word "DEFAULT", .word "gen_random_uuid", .mark '(', .mark ')',
        .word "PRIMARY", .word "KEY"]
    else [.word "SERIAL", .word "PRIMARY", .word "KEY"]
  else if c.primaryKey then [.word c.kind.sqlName, .word "PRIMARY", .word "KEY"]
  else if c.nullable then [.word c.kind.sqlName]
  else [.word c.kind.sqlName, .word "NOT", .word "NULL"]

def valueTokens (k : Column.Kind) (value : String) : List Token :=
  if value ∈ Literal.nowTokens then [.word "now", .mark '(', .mark ')']
  else if k = .boolean then
    [.word (Literal.truthWord (Text.lower value.toList == "true".toList))]
  else if k.isNumeric then [.number value]
  else [.literal value]

/-- A key takes no default. -/
def defaultTokens (c : Column) : List Token :=
  match c.defaultValue with
  | some value => if c.primaryKey then [] else .word "DEFAULT" :: valueTokens c.kind value
  | none => []

def pathTokens (path : String) : List Token :=
  ((Text.split '.' path.toList).map fun p => .word (String.ofList p)).intersperse (.mark '.')

def referenceTokens (c : Column) : List Token :=
  match c.reference with
  | some ⟨some table, some column⟩ =>
    .word "REFERENCES" :: pathTokens table ++
      [.mark '(', .word column, .mark ')', .word "ON", .word "DELETE", .word "CASCADE"]
  | _ => []

def columnTokens (c : Column) : List Token :=
  .word (Name.snake c.name) :: (storageTokens c ++ defaultTokens c ++ referenceTokens c)

def tableTokens (name : String) (cs : List Column) : List Token :=
  [.word "CREATE", .word "TABLE", .word (Name.snake name), .mark '('] ++
    List.intercalate [.mark ','] (cs.map columnTokens) ++ [.mark ')', .mark ';']

variable {b : Bool} {c : Column} {cs : List Column} {d : Definition} {name : String}

theorem checkedName_eq_ok {role s : String} {style : String → String} :
    Column.checkedName role style name = .ok s ↔ Name.isIdentifier name.toList = true ∧
      Name.isIdentifier (style name).toList = true ∧ s = style name := by
  simp only [Column.checkedName, check_bind_eq_ok, Name.checkIdentifier_eq_ok, pure, Except.pure,
    Except.ok.injEq, eq_comm (b := s)]

theorem writes_dialect (b : Bool) (cs : List Char) : (dialect b).Writes cs := by
  intro hd
  cases hd

theorem lex_word (h : Name.isIdentifier name.toList = true) :
    Code.lex (dialect b) name.toList = some [.word name] := by
  rw [lex_identifier h, String.ofList_toList]

theorem lex_path {ps : List (List Char)} (hp : ∀ p ∈ ps, Name.isIdentifier p = true) :
    Code.lex (dialect b) (Text.join ['.'] ps) =
      some ((ps.map fun p => Token.word (String.ofList p)).intersperse (.mark '.')) := by
  induction ps with
  | nil => rfl
  | cons p ps ih =>
    obtain ⟨h, hs⟩ := List.forall_mem_cons.mp hp
    cases ps with
    | nil => exact lex_identifier h
    | cons q qs =>
      have hdot : '.' ∈ (dialect b).marks := by simp [dialect]
      rw [Text.join_cons _ _ (List.cons_ne_nil _ _), List.append_assoc]
      exact lex_identifier_mark h hdot (ih hs)

def Storage.tokens : Storage → List Token
  | kind k => [.word k.sqlName]
  | serial => [.word "SERIAL"]
  | generatedUuid => [.word "UUID", .word "DEFAULT", .word "gen_random_uuid", .mark '(', .mark ')']

theorem isIdentifier_sqlName (k : Column.Kind) : Name.isIdentifier k.sqlName.toList = true := by
  cases k with
  | other name => exact (by decide : Name.isIdentifier "TEXT".toList = true)
  | _ => decide

theorem lex_storage (s : Storage) : Code.lex (dialect b) s.text.toList = some s.tokens := by
  cases s with
  | kind k => exact lex_word (isIdentifier_sqlName k)
  | serial => rfl
  | generatedUuid => rfl

theorem lex_truthWord (t : Bool) :
    Code.lex (dialect b) (Literal.truthWord t).toList = some [.word (Literal.truthWord t)] := by
  cases t <;> rfl

/-- Whether there is a token for the default of a column where it is written. -/
def Readable (numbers : Bool) (c : Column) : Prop :=
  c.primaryKey = false → c.kind.isNumeric = true → ∀ v ∈ c.defaultValue, v ∉ Literal.nowTokens →
    numbers = true ∧ isNumeral v.toList = true

theorem readable_of_numeral (h : c.primaryKey = false → c.NumeralDefault) : Readable true c :=
  fun hkey hk v hv hnow => ⟨rfl, h hkey hk v hv hnow⟩

theorem lex_value {k : Column.Kind} {value : String} (h : k.isNumeric = true →
      value ∉ Literal.nowTokens → b = true ∧ isNumeral value.toList = true) :
    Code.lex (dialect b) (Literal.ofDefault value k).sql.toList = some (valueTokens k value) := by
  simp only [Literal.ofDefault, valueTokens, List.contains_iff_mem]
  by_cases hn : value ∈ Literal.nowTokens
  · simp only [if_pos hn]
    rfl
  by_cases hb : k = .boolean
  · simp only [if_neg hn, if_pos hb]
    exact lex_truthWord _
  by_cases hk : k.isNumeric = true
  · obtain ⟨hnumbers, hnumeral⟩ := h hk hn
    have hl := lex_numeral (d := dialect b) hnumbers hnumeral
    rw [String.ofList_toList] at hl
    simpa only [if_neg hn, if_neg hb, if_pos hk, Literal.sql] using hl
  · simp only [if_neg hn, if_neg hb, if_neg hk, Literal.sql, String.toList_append,
      String.toList_ofList]
    have hl := lex_quoted (writes_dialect b value.toList)
    rwa [String.ofList_toList] at hl

namespace Definition

def defaultText : Option Literal → String
  | some l => " DEFAULT " ++ l.sql
  | none => ""

def referenceText : Option (String × String) → String
  | some (table, column) => " REFERENCES " ++ table ++ "(" ++ column ++ ") ON DELETE CASCADE"
  | none => ""

theorem toList_text (d : Definition) : d.text.toList = "  ".toList ++ d.name.toList ++ " ".toList ++
    d.storage.text.toList ++ ((if d.primaryKey then " PRIMARY KEY" else "").toList ++
      (if d.notNull then " NOT NULL" else "").toList ++ (defaultText d.default).toList ++
      (referenceText d.references).toList) := by
  obtain ⟨name, storage, key, null, default, reference⟩ := d
  simp only [text, tail, String.toList_append]
  cases default <;> cases reference <;> rfl

theorem toList_defaultText (l : Literal) :
    (defaultText (some l)).toList = " DEFAULT".toList ++ ' ' :: l.sql.toList := by
  have h : " DEFAULT ".toList = " DEFAULT".toList ++ [' '] := rfl
  rw [defaultText, String.toList_append, h, List.append_assoc, List.singleton_append]

theorem toList_referenceText (table column : String) :
    (referenceText (some (table, column))).toList = " REFERENCES".toList ++ ' ' :: table.toList ++
      '(' :: column.toList ++ ") ON DELETE CASCADE".toList := by
  have h : " REFERENCES ".toList = " REFERENCES".toList ++ [' '] := rfl
  have hb : "(".toList = ['('] := rfl
  change (" REFERENCES " ++ table ++ "(" ++ column ++ ") ON DELETE CASCADE").toList = _
  simp only [String.toList_append, h, hb, List.append_assoc, List.cons_append, List.nil_append]

end Definition

theorem clause_optional {words : String} {ts : List Token} (h : Clause (dialect b) words.toList ts)
    (t : Bool) : Clause (dialect b) (if t then words else "").toList (if t then ts else []) := by
  cases t with
  | false => exact Clause.nil
  | true => exact h

theorem clause_default (h : Readable b c) :
    Clause (dialect b)
      (Definition.defaultText (if c.primaryKey then none else c.literal?)).toList
      (defaultTokens c) := by
  rw [defaultTokens, Column.literal?]
  cases hv : c.defaultValue with
  | none =>
    rw [Option.map_none, ite_self]
    exact Clause.nil
  | some value =>
    cases hk : c.primaryKey with
    | true => exact Clause.nil
    | false =>
      have hd : Clause (dialect b) " DEFAULT".toList [.word "DEFAULT"] := ⟨rfl, rfl⟩
      have hl := lex_value fun hn => h hk hn value hv
      have := hd.append (Clause.space hl)
      rwa [← Definition.toList_defaultText] at this

theorem pathTokens_join {ps : List (List Char)} (hn : ps ≠ [])
    (hp : ∀ p ∈ ps, Name.isIdentifier p = true) :
    pathTokens (String.ofList (Text.join ['.'] ps)) =
      (ps.map fun p => Token.word (String.ofList p)).intersperse (.mark '.') := by
  rw [pathTokens, String.toList_ofList,
    Text.split_join hn fun p hm => Name.not_mem_of_isIdentifier (hp p hm) (by decide)]

theorem target?_eq_some {table column : String} (ht : table ≠ "") (hc : column ≠ "") :
    Column.Reference.target? ⟨some table, some column⟩ = some (table, column) := by
  rw [Column.Reference.target?]
  split
  · simp_all
  · simp_all
  · split <;> simp_all

theorem clause_references (h : ∀ r ∈ c.reference, r.Canonical) :
    Clause (dialect b) (Definition.referenceText (c.reference.bind (·.target?))).toList
      (referenceTokens c) := by
  rw [referenceTokens]
  cases hr : c.reference with
  | none => exact Clause.nil
  | some r =>
    obtain ⟨hn, ht, hc⟩ := h r hr
    rename_i tables column
    have hw : Clause (dialect b) " REFERENCES".toList [.word "REFERENCES"] := ⟨rfl, rfl⟩
    have hpath := Clause.space (lex_path (b := b) ht)
    have hopen : '(' ∈ (dialect b).marks := by simp [dialect]
    have hcol := Clause.mark hopen (by decide) (lex_identifier hc)
    have hend : Clause (dialect b) ") ON DELETE CASCADE".toList
        [.mark ')', .word "ON", .word "DELETE", .word "CASCADE"] := ⟨rfl, rfl⟩
    have := ((hw.append hpath).append hcol).append hend
    have htarget : Column.Reference.target?
        ⟨some (String.ofList (Text.join ['.'] tables)), some (String.ofList column)⟩ =
        some (String.ofList (Text.join ['.'] tables), String.ofList column) := by
      obtain ⟨p, hp⟩ := List.exists_mem_of_ne_nil tables hn
      have hj := Text.join_ne_nil ['.'] hp (Name.ne_nil_of_isIdentifier (ht p hp))
      refine target?_eq_some ?_ ?_
      · rwa [Ne, ← String.toList_eq_nil_iff, String.toList_ofList]
      · rw [Ne, ← String.toList_eq_nil_iff, String.toList_ofList]
        exact Name.ne_nil_of_isIdentifier hc
    have htl : (String.ofList (Text.join ['.'] tables)).toList = Text.join ['.'] tables :=
      String.toList_ofList
    have hcl : (String.ofList column).toList = column := String.toList_ofList
    rw [Option.bind_some, htarget, Definition.toList_referenceText, htl, hcl]
    simpa only [pathTokens_join hn ht, List.append_assoc, List.cons_append, List.nil_append]
      using this

theorem storageTokens_eq (c : Column) : storageTokens c =
    Storage.tokens (if c.primaryKey && c.autoIncrement then
      if c.kind = .uuid then .generatedUuid else .serial else .kind c.kind) ++
    (if c.primaryKey then [.word "PRIMARY", .word "KEY"] else []) ++
    (if !c.primaryKey && !c.nullable then [.word "NOT", .word "NULL"] else []) := by
  rw [storageTokens]
  cases c.primaryKey <;> cases c.autoIncrement <;> cases c.nullable <;>
    by_cases hu : c.kind = .uuid <;> simp [Storage.tokens, hu]

theorem clause_storage (c : Column) :
    Clause (dialect b) (' ' :: (if c.primaryKey && c.autoIncrement then
        if c.kind = .uuid then Storage.generatedUuid else .serial else .kind c.kind).text.toList ++
      (if c.primaryKey then " PRIMARY KEY" else "").toList ++
      (if !c.primaryKey && !c.nullable then " NOT NULL" else "").toList) (storageTokens c) := by
  have hstorage := Clause.space (lex_storage (b := b) (if c.primaryKey && c.autoIncrement then
    if c.kind = .uuid then .generatedUuid else .serial else .kind c.kind))
  have hkey : Clause (dialect b) " PRIMARY KEY".toList [.word "PRIMARY", .word "KEY"] := ⟨rfl, rfl⟩
  have hnull : Clause (dialect b) " NOT NULL".toList [.word "NOT", .word "NULL"] := ⟨rfl, rfl⟩
  rw [storageTokens_eq]
  exact (hstorage.append (clause_optional hkey c.primaryKey)).append
    (clause_optional hnull (!c.primaryKey && !c.nullable))

/-- The text of a column's definition has the tokens of the column. -/
theorem clause_definition (hc : c.Canonical) (h : Definition.ofColumn c = .ok d)
    (hn : Readable b c) : Clause (dialect b) d.text.toList (columnTokens c) := by
  obtain ⟨name, hname, hd⟩ := bind_eq_ok.mp h
  cases hd
  obtain ⟨-, hi, rfl⟩ := checkedName_eq_ok.mp hname
  have hrest := ((clause_storage c).append (clause_default hn)).append
    (clause_references hc.reference)
  have hall := (Clause.space (Clause.space (lex_word hi)).lex_eq).append hrest
  have hs : " ".toList = [' '] := rfl
  have hd : "  ".toList = [' ', ' '] := rfl
  rw [Definition.toList_text, columnTokens, hs, hd]
  simpa only [List.append_assoc, List.cons_append, List.nil_append] using hall

theorem Table.exists_of_ofColumns {t : Table} (h : Table.ofColumns name cs = .ok t) :
    Name.isIdentifier name.toList = true ∧ Name.isIdentifier (Name.snake name).toList = true ∧
      ∃ ds, cs.mapM Definition.ofColumn = .ok ds ∧ t = ⟨Name.snake name, ds⟩ := by
  obtain ⟨n, hname, hds⟩ := bind_eq_ok.mp h
  obtain ⟨ds, hd, he⟩ := bind_eq_ok.mp hds
  cases he
  obtain ⟨hn, hi, rfl⟩ := checkedName_eq_ok.mp hname
  exact ⟨hn, hi, ds, hd, rfl⟩

theorem Table.toList_text (t : Table) : t.text.toList = "CREATE TABLE".toList ++
    (' ' :: t.name.toList ++ " (\n".toList ++
      Text.join ",\n".toList (t.definitions.map (·.text.toList)) ++ "\n);".toList) := by
  have h : "CREATE TABLE ".toList = "CREATE TABLE".toList ++ [' '] := rfl
  change ("CREATE TABLE " ++ t.name ++ " (\n" ++
    String.intercalate ",\n" (t.definitions.map (·.text)) ++ "\n);").toList = _
  simp only [String.toList_append, Text.toList_intercalate, List.map_map, h, List.append_assoc,
    List.cons_append, List.nil_append, Function.comp_def]

/-- A statement has the tokens that its columns ask for, and no others, if there is a token for each
default. -/
theorem lex_statement {line text : String} (hp : Column.parse line = .ok cs)
    (hs : createTable name cs = .ok text) (hn : ∀ c ∈ cs, Readable b c) :
    Code.lex (dialect b) text.toList = some (tableTokens name cs) := by
  obtain ⟨t, ht, rfl⟩ := map_eq_ok.mp hs
  obtain ⟨-, hi, ds, hd, rfl⟩ := Table.exists_of_ofColumns ht
  have hcanonical := Column.canonical_of_parse hp
  have hcomma : Clause (dialect b) ",\n".toList [.mark ','] := ⟨rfl, rfl⟩
  have hbody : Clause (dialect b) (Text.join ",\n".toList (ds.map (·.text.toList)))
      (List.intercalate [.mark ','] (cs.map columnTokens)) := by
    refine Text.join_forall₂ .nil (fun _ _ _ _ => Clause.append) hcomma ?_
    rw [List.forall₂_map_left_iff, List.forall₂_map_right_iff]
    exact (forall₂_of_mapM hd fun c hm _ hd =>
      clause_definition (hcanonical c hm) hd (hn c hm)).flip
  have hopen : Clause (dialect b) " (\n".toList [.mark '('] := ⟨rfl, rfl⟩
  have hclose : Clause (dialect b) "\n);".toList [.mark ')', .mark ';'] := ⟨rfl, rfl⟩
  have hstart : Code.lex (dialect b) "CREATE TABLE".toList =
      some [.word "CREATE", .word "TABLE"] := rfl
  have hrest := (((Clause.space (lex_word hi)).append hopen).append hbody).append hclose
  rw [Table.toList_text, lex_append hstart hrest.lex_eq hrest.apart]
  simp only [tableTokens, List.cons_append, List.nil_append]

/-- No default is written as a number. -/
def NoNumber (cs : List Column) : Prop :=
  ∀ c ∈ cs, c.primaryKey = false → c.kind.isNumeric = true →
    ∀ v ∈ c.defaultValue, v ∈ Literal.nowTokens

/-- A statement made from a column line without numbers has the tokens that its columns ask for, and
no others. -/
theorem lex_createTable {line text : String} (hp : Column.parse line = .ok cs)
    (hs : createTable name cs = .ok text) (hn : NoNumber cs) :
    lex text.toList = some (tableTokens name cs) := by
  refine lex_statement hp hs fun c hc hkey hk v hv hnow => ?_
  exact absurd (hn c hc hkey hk v hv) hnow

/-- A line with a default that would end the statement if it were not quoted. -/
def orderLine : String := "id:uuid:pk:serial,note:text:default(');--),by:int:null:fk(a.b.id)"

def orderColumns : List Column :=
  [{ name := "id", kind := .uuid, primaryKey := true, autoIncrement := true },
    { name := "note", kind := .text, defaultValue := some "');--" },
    { name := "by", kind := .integer, nullable := true
      reference := some ⟨some "a.b", some "id"⟩ }]

def orderTokens : List Token :=
  [.word "CREATE", .word "TABLE", .word "order_lines", .mark '(',
    .word "id", .word "UUID", .word "DEFAULT", .word "gen_random_uuid", .mark '(', .mark ')',
    .word "PRIMARY", .word "KEY", .mark ',',
    .word "note", .word "TEXT", .word "NOT", .word "NULL", .word "DEFAULT", .literal "');--",
    .mark ',', .word "by", .word "INTEGER", .word "REFERENCES", .word "a", .mark '.', .word "b",
    .mark '(', .word "id", .mark ')', .word "ON", .word "DELETE", .word "CASCADE", .mark ')',
    .mark ';']

theorem lex_createTable_order : ∃ text, Column.parse orderLine = .ok orderColumns ∧
    createTable "OrderLines" orderColumns = .ok text ∧ NoNumber orderColumns ∧
    lex text.toList = some orderTokens := by
  have hp : Column.parse orderLine = .ok orderColumns := toOption_eq_some.mp (by decide +kernel)
  obtain ⟨text, hs⟩ : ∃ text, createTable "OrderLines" orderColumns = .ok text := ⟨_, rfl⟩
  have hn : NoNumber orderColumns := by
    unfold NoNumber
    decide
  have ht : tableTokens "OrderLines" orderColumns = orderTokens := by decide
  exact ⟨text, hp, hs, hn, ht ▸ lex_createTable hp hs hn⟩

end Sql

end Scaffold
