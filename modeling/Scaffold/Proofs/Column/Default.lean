import Scaffold.Proofs.Drift.Class

/-! # Defaults of numeric columns

A numeric column takes whatever a column line gives as its default, and the statement and the class
of its table hold that as it stands. They keep their shape as long as it is a decimal number.
-/

namespace Scaffold.Column

variable {c : Column} {cs : List Column} {line name : String}

/-- Whether the default of a numeric column stands in its definition as it was given. -/
def WrittenInSql (c : Column) (definition : String) : Prop :=
  c.primaryKey = false → c.kind.isNumeric = true → ∀ v ∈ c.defaultValue,
    definition = "  " ++ Name.snake c.name ++ " " ++ c.kind.sqlName ++
      (if c.nullable then "" else " NOT NULL") ++ " DEFAULT " ++
      (if v ∈ Literal.nowTokens then "now()" else v) ++
      Sql.Definition.referenceText (c.reference.bind (·.target?))

def WrittenInDart (c : Column) (getter : String) : Prop :=
  c.kind.isNumeric = true → ∀ v ∈ c.defaultValue,
    getter = "  " ++ c.kind.builder ++ "Column get " ++ Name.camel c.name ++ " => " ++
      c.kind.builder ++ "()" ++
      (if c.primaryKey && c.autoIncrement then ".autoIncrement()" else "") ++
      (if c.nullable then ".nullable()" else "") ++ ".withDefault(" ++
      (if v ∈ Literal.nowTokens then "currentDateAndTime" else "const Constant(" ++ v ++ ")") ++
      ")();"

theorem Kind.ne_boolean_of_isNumeric {k : Kind} (h : k.isNumeric = true) : k ≠ .boolean := by
  rintro rfl
  cases h

theorem literal?_of_isNumeric (hk : c.kind.isNumeric = true) {v : String}
    (hv : v ∈ c.defaultValue) :
    c.literal? = some (if v ∈ Literal.nowTokens then .now else .number v) := by
  have hv' : c.defaultValue = some v := hv
  simp [literal?, hv', Literal.ofDefault, Kind.ne_boolean_of_isNumeric hk, hk]

theorem writtenInSql {d : Sql.Definition} (h : Sql.Definition.ofColumn c = .ok d) :
    WrittenInSql c d.text := by
  intro hkey hk v hv
  obtain ⟨name, hname, hd⟩ := bind_eq_ok.mp h
  cases hd
  obtain ⟨-, -, rfl⟩ := Sql.checkedName_eq_ok.mp hname
  have hl : (if v ∈ Literal.nowTokens then Literal.now else .number v).sql =
      if v ∈ Literal.nowTokens then "now()" else v := by
    split <;> rfl
  rw [← hl, ← String.toList_inj, Sql.Definition.toList_text]
  simp only [hkey, literal?_of_isNumeric hk hv, Bool.false_and, Bool.false_eq_true, if_false,
    Bool.not_false, Bool.true_and, Sql.Definition.defaultText, Sql.Storage.text]
  cases c.nullable <;> simp [String.toList_append]

theorem writtenInDart {g : Drift.Getter} (h : Drift.Getter.ofColumn c = .ok g) :
    WrittenInDart c g.text := by
  intro hk v hv
  obtain ⟨name, hname, hg⟩ := bind_eq_ok.mp h
  cases hg
  obtain ⟨-, -, rfl⟩ := Sql.checkedName_eq_ok.mp hname
  have hl : (if v ∈ Literal.nowTokens then Literal.now else .number v).dart =
      if v ∈ Literal.nowTokens then "currentDateAndTime" else "const Constant(" ++ v ++ ")" := by
    split <;> rfl
  rw [← hl, ← String.toList_inj]
  simp [Drift.Getter.text, Drift.Getter.calls, literal?_of_isNumeric hk hv, String.toList_append]

theorem table_text (t : Sql.Table) : t.text = "CREATE TABLE " ++ t.name ++ " (\n" ++
    String.intercalate ",\n" (t.definitions.map (·.text)) ++ "\n);" := by
  delta Sql.Table.text
  rfl

/-- The default of a numeric column is written as the current time or as it was given. If every such
default is a decimal number, the statement is one statement with a definition for each column, and,
if no other default holds anything that Dart would read in a string, the class is one class with a
getter for each column. -/
theorem numeric_default_written (hp : parse line = .ok cs) (name : String) :
    (∀ text, Sql.createTable name cs = .ok text → ∃ definitions,
      text = "CREATE TABLE " ++ Name.snake name ++ " (\n" ++ String.intercalate ",\n" definitions ++
        "\n);" ∧ List.Forall₂ WrittenInSql cs definitions ∧
      ((∀ c ∈ cs, c.primaryKey = false → c.NumeralDefault) →
        Code.lex (Sql.dialect true) text.toList = some (Sql.tableTokens name cs))) ∧
    ∀ text, Drift.tableClass name cs = .ok text → ∃ getters,
      text = String.intercalate "\n"
        (("class " ++ Name.pascal name ++ " extends Table \x7b") :: getters ++ ["\x7d"]) ∧
      List.Forall₂ WrittenInDart cs getters ∧
      ((∀ c ∈ cs, c.NumeralDefault) → (∀ c ∈ cs, c.PlainDefault) →
        Code.lex Drift.dialect text.toList = some (Drift.classTokens name cs)) := by
  refine ⟨fun text hs => ?_, fun text hs => ?_⟩
  · obtain ⟨t, ht, rfl⟩ := map_eq_ok.mp hs
    obtain ⟨-, -, ds, hd, rfl⟩ := Sql.Table.exists_of_ofColumns ht
    refine ⟨ds.map (·.text), by rw [table_text], ?_, fun hn => ?_⟩
    · rw [List.forall₂_map_right_iff]
      exact (mapM_eq_ok.mp hd).imp fun _ _ => writtenInSql
    · exact Sql.lex_statement hp hs fun c hc => Sql.readable_of_numeral (hn c hc)
  · obtain ⟨t, ht, rfl⟩ := map_eq_ok.mp hs
    obtain ⟨-, gs, hg, rfl⟩ := Drift.Table.exists_of_ofColumns ht
    refine ⟨gs.map (·.text), by rw [Drift.Table.text], ?_, Drift.lex_tableClass hs⟩
    rw [List.forall₂_map_right_iff]
    exact (mapM_eq_ok.mp hg).imp fun _ _ => writtenInDart

def balanceColumns : List Column :=
  [{ name := "balance", kind := .real, defaultValue := some "-1.5e3" },
    { name := "since", kind := .bigint, nullable := true, defaultValue := some "now()" },
    { name := "note", kind := .text, defaultValue := some "it's" }]

theorem numeric_default_written_balance : ∃ sql dart,
    parse "balance:float:default(-1.5e3),since:bigint:null:default(now()),note:str:default(it's)" =
      .ok balanceColumns ∧
    Sql.createTable "Accounts" balanceColumns = .ok sql ∧
    Code.lex (Sql.dialect true) sql.toList =
      some (Sql.tableTokens "Accounts" balanceColumns) ∧
    Code.Token.number "-1.5e3" ∈ Sql.tableTokens "Accounts" balanceColumns ∧
    Drift.tableClass "Accounts" balanceColumns = .ok dart ∧
    Code.lex Drift.dialect dart.toList = some (Drift.classTokens "Accounts" balanceColumns) ∧
    Code.Token.number "-1.5e3" ∈ Drift.classTokens "Accounts" balanceColumns := by
  have hp : parse
      "balance:float:default(-1.5e3),since:bigint:null:default(now()),note:str:default(it's)" =
      .ok balanceColumns := by decide +kernel
  obtain ⟨sql, hs⟩ : ∃ sql, Sql.createTable "Accounts" balanceColumns = .ok sql := ⟨_, rfl⟩
  obtain ⟨dart, hd⟩ : ∃ dart, Drift.tableClass "Accounts" balanceColumns = .ok dart := ⟨_, rfl⟩
  have hnumeral : ∀ c ∈ balanceColumns, c.NumeralDefault := by decide +kernel
  have hliteral : ∀ c ∈ balanceColumns,
      c.literal? ∈ [some (.number "-1.5e3"), some .now, some (.string "it's")] := by decide +kernel
  have hplain : ∀ c ∈ balanceColumns, c.PlainDefault := by
    intro c hc text ht
    have hm := hliteral c hc
    rw [ht] at hm
    have he : text = "it's" := by simpa using hm
    rw [he, ← List.all_eq_true]
    decide
  obtain ⟨hsql, hdart⟩ := numeric_default_written hp "Accounts"
  obtain ⟨_, -, -, hlex⟩ := hsql sql hs
  obtain ⟨_, -, -, hlex'⟩ := hdart dart hd
  exact ⟨sql, dart, hp, hs, hlex fun c hc _ => hnumeral c hc, by decide +kernel, hd,
    hlex' hnumeral hplain, by decide +kernel⟩

/-- A default of a numeric column that is no number ends the statement and starts another one. -/
theorem numeric_default_escapes : ∃ c v, parse "a:int:default(0); DROP TABLE users; --)" = .ok [c] ∧
    c.kind.isNumeric = true ∧ c.defaultValue = some v ∧ v ∉ Literal.nowTokens ∧
    Code.isNumeral v.toList = false ∧
    Sql.createTable "t" [c] =
      .ok "CREATE TABLE t (\n  a INTEGER NOT NULL DEFAULT 0); DROP TABLE users; --\n);" ∧
    Drift.tableClass "t" [c] = .ok ("class T extends Table \x7b\n" ++
      "  integerColumn get a => integer().withDefault(" ++
      "const Constant(0); DROP TABLE users; --))();\n\x7d") := by
  refine ⟨{ name := "a", kind := .integer, defaultValue := some "0); DROP TABLE users; --" },
    "0); DROP TABLE users; --", ?_, rfl, rfl, ?_, ?_, ?_, ?_⟩
  all_goals decide +kernel

end Scaffold.Column
