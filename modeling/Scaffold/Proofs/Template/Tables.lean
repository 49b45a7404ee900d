import Scaffold.Proofs.Sql.Statement
import Scaffold.Proofs.Template.Identifiers
import Scaffold.Sql.Migration

/-! # The table that a text is about

The policies of a table and what it takes to synchronise it name the table as it is asked for. The
migration that creates it spells its name with underscores, so they are about the same table as long
as the name keeps its words.
-/

namespace Scaffold

namespace Template

open Scaffold.Template.Symbol (ofText)

variable {α β : Type}

/-- The starts of statements and clauses that are about a table; its name stands behind them. -/
def tableMarks : List String := ["ALTER TABLE ", "  ON ", "      - SELECT * FROM "]

def behind (mark : String) (line : List (Symbol α)) : Option (List (Symbol α)) :=
  if startsWith mark.toList line then some (line.drop mark.toList.length) else none

def quoted (line : List (Symbol α)) : List (Symbol α) :=
  (line.dropWhile fun x => !x.isChar '\'').drop 1

/-- The tables that a line is about: behind a mark, or in the quotes of a constant. -/
def lineTables (line : List (Symbol α)) : List (List (Symbol α)) :=
  ((tableMarks.filterMap fun mark => behind mark line) ++
    ((behind "const " line).map quoted).toList).map
      (List.takeWhile fun x => !x.breaksWord)

def tables (xs : List (Symbol Mark)) : List (List (Symbol Mark)) := (lines xs).flatMap lineTables

def Script.tables? (t : Script) : Option (List Line) := t.read? lineTables

variable {f : α → β}

theorem behind_map (mark : String) (line : List (Symbol α)) :
    behind mark (line.map (Symbol.map f)) = (behind mark line).map (List.map (Symbol.map f)) := by
  rw [behind, behind, startsWith_map]
  split
  · rw [← List.map_drop, Option.map_some]
  · rfl

theorem quoted_map (line : List (Symbol α)) :
    quoted (line.map (Symbol.map f)) = (quoted line).map (Symbol.map f) := by
  have hquote : (fun x => !Symbol.isChar '\'' x) ∘ Symbol.map f = fun x => !Symbol.isChar '\'' x :=
    funext fun x => congrArg (!·) (Symbol.isChar_map f '\'' x)
  rw [quoted, List.dropWhile_map, hquote, ← List.map_drop, quoted]

theorem lineTables_map (line : List (Symbol α)) :
    lineTables (line.map (Symbol.map f)) = (lineTables line).map (List.map (Symbol.map f)) := by
  have hbreak : (fun x => !Symbol.breaksWord x) ∘ Symbol.map f = fun x => !Symbol.breaksWord x :=
    funext fun x => by cases x <;> rfl
  have hmarks : (tableMarks.filterMap fun mark => behind mark (line.map (Symbol.map f))) =
      (tableMarks.filterMap fun mark => behind mark line).map (List.map (Symbol.map f)) := by
    simp only [behind_map, List.map_filterMap]
  have hconst : ((behind "const " (line.map (Symbol.map f))).map quoted).toList =
      (((behind "const " line).map quoted).toList).map (List.map (Symbol.map f)) := by
    rw [behind_map]
    cases behind "const " line with
    | none => rfl
    | some rest => exact congrArg (fun l => [l]) (quoted_map rest)
  rw [lineTables, hmarks, hconst, ← List.map_append, List.map_map, lineTables, List.map_map]
  refine List.map_congr_left fun l _ => ?_
  simp only [Function.comp_apply, List.takeWhile_map, hbreak]

variable {key : String} {scope s : Scope} {xs : List (Symbol Mark)}

/-- A text is about one table if its template names the same one throughout. -/
theorem spelled_tables {t : Template} {guards : List Guard} {e : Expr} {table : String}
    (hn : t.script.tables? = some [⟨guards, [.value e]⟩]) (hs : reached key guards scope = [s])
    (he : e.eval key s = .ok (.text table)) (hx : t.marked key scope = .ok xs) :
    tables xs ≠ [] ∧ ∀ w ∈ tables xs, spelled w = table.toList := by
  have hmem (v : List (Symbol Mark)) : v ∈ tables xs ↔ v = fill key s [.value e] := by
    rw [tables, mem_read (fun _ _ => lineTables_map _) (by decide) hn hx]
    simp [Line.filled, hs, eq_comm]
  constructor
  · exact List.ne_nil_of_mem ((hmem _).mpr rfl)
  · intro w hw
    have hmark : e.mark key s = (e, table) := by
      rw [Expr.mark, he]
      rfl
    rw [(hmem w).mp hw, fill, List.map_singleton, Symbol.map, hmark]
    exact List.append_nil _

end Template

open Template

namespace Sql

theorem tables?_template (p : Policy) :
    p.template.body.script.tables? = some [⟨guards p, [.value (.var "table")]⟩] := by
  cases p <;>
  · dsimp only [Policy.template, userOwned, teamOwned, publicRead, adminOnly, script]
    repeat rw [String.toList_append]
    repeat rw [String.toList_ofList]
    decide +kernel

theorem spelled_tables (p : Policy) {key table column : String} {xs : List (Symbol Mark)}
    (hx : p.template.body.marked key [("table", .text table), ("column", .text column)] = .ok xs) :
    tables xs ≠ [] ∧ ∀ w ∈ tables xs, spelled w = table.toList := by
  cases p <;> exact Template.spelled_tables (tables?_template _) rfl rfl hx

/-- Whether two names are the same where names are not quoted: but for the case of ASCII letters. -/
def SameName (a b : List Char) : Prop := a.map Char.toLower = b.map Char.toLower

def migrationText (table definitions : String) : String :=
  "-- Migration: create_" ++ table ++ "_table\n" ++
    ("CREATE TABLE " ++ table ++ " (\n" ++ definitions ++ "\n);") ++
    "\n\n-- Enable RLS\nALTER TABLE " ++ table ++ " ENABLE ROW LEVEL SECURITY;\n"

theorem render_migrationTemplate (table : String) (ds : List Definition) :
    migrationTemplate.render
      [("table", .text table), ("create_sql", .text (Table.text ⟨table, ds⟩))] =
      .ok (migrationText table (String.intercalate ",\n" (ds.map (·.text)))) := by
  have hparts (create : String) :
      migrationTemplate.render [("table", .text table), ("create_sql", .text create)] =
        .ok ("-- Migration: create_" ++ (table ++ ("_table\n" ++ (create ++
          ("\n\n-- Enable RLS\nALTER TABLE " ++ (table ++
            (" ENABLE ROW LEVEL SECURITY;\n" ++ ""))))))) := rfl
  rw [hparts]
  unfold migrationText Table.text
  apply congrArg Except.ok
  generalize String.intercalate ",\n" _ = definitions
  simp only [String.append_assoc, String.append_empty]

theorem exists_table_of_migration {name m : String} {columns : Option String}
    (h : migration name columns = .ok m) :
    Name.isIdentifier name.toList = true ∧ ∃ line cs ds, columns = some line ∧
      Column.parse line = .ok cs ∧ Table.ofColumns name cs = .ok ⟨Name.snake name, ds⟩ ∧
      m = migrationText (Name.snake name) (String.intercalate ",\n" (ds.map (·.text))) := by
  unfold migration at h
  split at h
  · cases h
  · cases h
  · rename_i line _
    obtain ⟨cs, hcs, hrest⟩ := bind_eq_ok.mp h
    obtain ⟨create, hcreate, hrest⟩ := bind_eq_ok.mp hrest
    obtain ⟨t, ht, rfl⟩ := map_eq_ok.mp hcreate
    obtain ⟨hi, -, ds, -, rfl⟩ := Table.exists_of_ofColumns ht
    rw [render_migrationTemplate] at hrest
    exact ⟨hi, line, cs, ds, rfl, hcs, ht, (Except.ok.inj hrest).symm⟩

theorem exists_of_migration {name m : String} {columns : Option String}
    (h : migration name columns = .ok m) :
    Name.isIdentifier name.toList = true ∧
      ∃ definitions, m = migrationText (Name.snake name) definitions := by
  obtain ⟨hi, -, -, ds, -, -, -, hm⟩ := exists_table_of_migration h
  exact ⟨hi, _, hm⟩

end Sql

namespace Sync

theorem tables?_template (k : Kind) :
    k.template.body.script.tables? = some [⟨[], [.value (.var "table")]⟩] := by
  cases k <;>
  · dsimp only [Kind.template, rules, schema, script]
    repeat rw [String.toList_append]
    repeat rw [String.toList_ofList]
    decide +kernel

end Sync

namespace Template.Request

inductive IsAbout (table : String) : Request → Prop
  | policies {policy column : String} : IsAbout table (.policies table policy column)
  | sync {kind : String} {userColumn : Option String} : IsAbout table (.sync kind table userColumn)

theorem IsAbout.spelled_tables {table : String} {q : Request} {p : Packaged} {scope : Scope}
    {xs : List (Symbol Mark)} (ht : q.IsAbout table) (hq : q.Fills p scope)
    (hx : p.body.marked p.key scope = .ok xs) :
    tables xs ≠ [] ∧ ∀ w ∈ tables xs, spelled w = table.toList := by
  cases ht with
  | policies =>
    cases hq with
    | policies p => exact Sql.spelled_tables p hx
  | sync =>
    cases hq with
    | sync k => exact Template.spelled_tables (Sync.tables?_template k) rfl rfl hx

/-- The texts about a table name it as it is asked for, and its migration creates it under its name
with underscores. These are the same table if the name keeps its words. -/
theorem one_table_iff {name m s : String} {columns : Option String} {q : Request}
    (hm : Sql.migration name columns = .ok m) (ha : q.IsAbout name) (h : q.text = .ok s) :
    (∃ definitions, m = Sql.migrationText (Name.snake name) definitions) ∧
    ∃ p scope xs, q.Fills p scope ∧ p.body.marked p.key scope = .ok xs ∧ plain xs = s ∧
      tables xs ≠ [] ∧ (∀ w ∈ tables xs, spelled w = name.toList) ∧
      ((∀ w ∈ tables xs, Sql.SameName (spelled w) (Name.snake name).toList) ↔
        Name.keepsWords name.toList = true) := by
  have ht : ¬ q.IsTable := by
    intro ht
    cases ht
    cases ha
  obtain ⟨hi, hcreate⟩ := Sql.exists_of_migration hm
  obtain ⟨p, scope, xs, hq, hx, hs⟩ := exists_marked h ht
  obtain ⟨hne, hall⟩ := ha.spelled_tables hq hx
  refine ⟨hcreate, p, scope, xs, hq, hx, hs, hne, hall, ?_⟩
  have hsame : Sql.SameName name.toList (Name.snake name).toList ↔
      Name.keepsWords name.toList = true := by
    rw [Sql.SameName, Name.snake, String.toList_ofList]
    exact Name.map_toLower_snakeChars hi
  rw [← hsame]
  constructor
  · intro hw
    obtain ⟨w, hmem⟩ := List.exists_mem_of_ne_nil _ hne
    rw [← hall w hmem]
    exact hw w hmem
  · intro hsame w hw
    rw [hall w hw]
    exact hsame

def todoPolicies : Request := .policies "_Todo" "team-owned" "team_id"

theorem one_table_iff_todo : ∃ m s, Sql.migration "_Todo" (some "id:uuid:pk") = .ok m ∧
    todoPolicies.IsAbout "_Todo" ∧ todoPolicies.text = .ok s ∧
    ∃ p scope xs, todoPolicies.Fills p scope ∧ p.body.marked p.key scope = .ok xs ∧ plain xs = s ∧
      tables xs ≠ [] ∧
      ∀ w ∈ tables xs, Sql.SameName (spelled w) (Name.snake "_Todo").toList := by
  have hsome : (Sql.migration "_Todo" (some "id:uuid:pk")).toOption.isSome = true ∧
      todoPolicies.text.toOption.isSome = true := by decide +kernel
  obtain ⟨m, hm⟩ := Option.isSome_iff_exists.mp hsome.1
  obtain ⟨s, hs⟩ := Option.isSome_iff_exists.mp hsome.2
  rw [toOption_eq_some] at hm hs
  obtain ⟨-, p, scope, xs, hq, hx, hplain, hne, -, hsame⟩ := one_table_iff hm .policies hs
  exact ⟨m, s, hm, .policies, hs, p, scope, xs, hq, hx, hplain, hne, hsame.mpr (by decide)⟩

def itemPolicies : Request := .policies "TodoItems" "user-owned" "user_id"

/-- A name with a second capital is that of another table. -/
theorem tables_differ : ∃ m s, Sql.migration "TodoItems" (some "id:int") = .ok m ∧
    itemPolicies.text = .ok s ∧
    ∃ p scope xs, itemPolicies.Fills p scope ∧ p.body.marked p.key scope = .ok xs ∧ plain xs = s ∧
      ∃ w ∈ tables xs, ¬ Sql.SameName (spelled w) (Name.snake "TodoItems").toList := by
  have hsome : (Sql.migration "TodoItems" (some "id:int")).toOption.isSome = true ∧
      itemPolicies.text.toOption.isSome = true := by decide +kernel
  obtain ⟨m, hm⟩ := Option.isSome_iff_exists.mp hsome.1
  obtain ⟨s, hs⟩ := Option.isSome_iff_exists.mp hsome.2
  rw [toOption_eq_some] at hm hs
  obtain ⟨p, scope, xs, hq, hx, hplain⟩ := exists_marked hs nofun
  obtain ⟨hne, hall⟩ := IsAbout.policies.spelled_tables hq hx
  obtain ⟨w, hw⟩ := List.exists_mem_of_ne_nil _ hne
  refine ⟨m, s, hm, hs, p, scope, xs, hq, hx, hplain, w, hw, ?_⟩
  rw [hall w hw, Sql.SameName]
  decide +kernel

end Template.Request

end Scaffold
