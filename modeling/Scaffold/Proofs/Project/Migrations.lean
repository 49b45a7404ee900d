import Scaffold.Proofs.Calendar
import Scaffold.Proofs.Files.Path
import Scaffold.Proofs.Template.Tables
import Scaffold.Project.Basic

/-! # Migrations of a project

A migration is about one table: the one that it creates, in the comment at its head, in the
statement that protects the table and in the name of its file. The files stand together in one
directory, where their names are in the order of the times that they are made.
-/

namespace Scaffold

variable {name other text : String} {columns : Option String} {now now' : Moment}

namespace Sql

theorem isWordChar_snake (h : Name.isIdentifier name.toList = true) :
    ∀ c ∈ (Name.snake name).toList, Name.isWordChar c = true := by
  rw [Name.snake, String.toList_ofList]
  intro c
  exact Name.closed_isWordChar.joined (by decide) fun d => Name.isWordChar_of_mem h

theorem not_mem_migrationFile (h : Name.isIdentifier name.toList = true) :
    '/' ∉ (migrationFile name now).toList := by
  intro hm
  simp only [migrationFile, String.toList_append, List.mem_append] at hm
  obtain ((hm | hm) | hm) | hm := hm
  · exact absurd (Moment.isDigit_of_mem_stamp hm) (by decide)
  · exact absurd hm (by decide)
  · exact absurd (isWordChar_snake h _ hm) (by decide)
  · exact absurd hm (by decide)

theorem isPart_migrationFile : Path.isPart (migrationFile name now).toList = true := by
  have hm : '_' ∈ (migrationFile name now).toList := by
    simp [migrationFile]
  have hnil : (migrationFile name now).toList ≠ [] := List.ne_nil_of_mem hm
  have hdot : (migrationFile name now).toList ≠ ['.'] := by
    intro he
    rw [he] at hm
    exact absurd hm (by decide)
  simp [Path.isPart, hnil, hdot]

theorem migrationFile_lt (hn : now.Shown) (hn' : now'.Shown) (hy : 1000 ≤ now.date.year)
    (h : now.clock < now'.clock) : migrationFile name now < migrationFile other now' := by
  unfold migrationFile
  rw [String.append_assoc, String.append_assoc, String.append_assoc, String.append_assoc]
  exact Moment.stamp_append_lt hn hn' hy h

end Sql

namespace Project

def migrationsOf (project : Option Project) : Path :=
  match project with
  | some p => p.migrationsDir
  | none => Path.ofString defaultDatabasePath / "migrations"

theorem migrationPath_eq (project : Option Project) (h : Name.isIdentifier name.toList = true) :
    migrationPath project name now = ⟨(migrationsOf project).anchor,
      (migrationsOf project).parts ++ [Sql.migrationFile name now]⟩ := by
  rw [← Path.div_eq Sql.isPart_migrationFile (Sql.not_mem_migrationFile h)]
  cases project <;> rfl

/-- The text of a migration is the statement that creates a table between two lines about the same
table, after which its file is named. The file stands in the directory of migrations, behind those
that are made before the second in which it is made. -/
theorem migration_about_table (h : Sql.migration name columns = .ok text) :
    (∃ line cs create definitions, columns = some line ∧ Column.parse line = .ok cs ∧
      Sql.createTable name cs = .ok create ∧
      create = "CREATE TABLE " ++ Name.snake name ++ " (\n" ++ definitions ++ "\n);" ∧
      text = "-- Migration: create_" ++ Name.snake name ++ "_table\n" ++ create ++
        "\n\n-- Enable RLS\nALTER TABLE " ++ Name.snake name ++ " ENABLE ROW LEVEL SECURITY;\n") ∧
    (∀ project now, ∃ file, file = now.stamp ++ "_create_" ++ Name.snake name ++ "_table.sql" ∧
      '/' ∉ file.toList ∧ migrationPath project name now =
        ⟨(migrationsOf project).anchor, (migrationsOf project).parts ++ [file]⟩) ∧
    (∀ other now now', now.Shown → now'.Shown → 1000 ≤ now.date.year → now.clock < now'.clock →
      Sql.migrationFile name now < Sql.migrationFile other now') := by
  obtain ⟨hi, line, cs, ds, hline, hcs, ht, rfl⟩ := Sql.exists_table_of_migration h
  refine ⟨⟨line, cs, _, _, hline, hcs, map_eq_ok.mpr ⟨_, ht, rfl⟩, rfl, rfl⟩, ?_, ?_⟩
  · intro project now
    exact ⟨_, rfl, Sql.not_mem_migrationFile hi, migrationPath_eq project hi⟩
  · intro other now now' hn hn' hy hlt
    exact Sql.migrationFile_lt hn hn' hy hlt

theorem migration_about_table_recipeSteps :
    ∃ line cs create definitions text now now',
      Sql.migration "RecipeSteps" (some line) = .ok text ∧ Column.parse line = .ok cs ∧
      cs.map (·.defaultValue) = [none, some "\x7b\x7b table \x7d\x7d"] ∧
      Sql.createTable "RecipeSteps" cs = .ok create ∧
      create = "CREATE TABLE " ++ "recipe_steps" ++ " (\n" ++ definitions ++ "\n);" ∧
      text = "-- Migration: create_" ++ "recipe_steps" ++ "_table\n" ++ create ++
        "\n\n-- Enable RLS\nALTER TABLE " ++ "recipe_steps" ++ " ENABLE ROW LEVEL SECURITY;\n" ∧
      migrationPath none "RecipeSteps" now = ⟨.relative,
        ["supabase", "migrations", "20240501123059_create_recipe_steps_table.sql"]⟩ ∧
      now.Shown ∧ now'.Shown ∧ now.clock < now'.clock ∧
      Sql.migrationFile "RecipeSteps" now < Sql.migrationFile "a" now' := by
  let line := "id:uuid:pk,note:text:default(\x7b\x7b table \x7d\x7d)"
  let now : Moment := ⟨⟨2024, 5, 1⟩, 12, 30, 59, 999, none⟩
  let now' : Moment := ⟨⟨2024, 5, 1⟩, 12, 31, 0, 0, none⟩
  have hsome : (Sql.migration "RecipeSteps" (some line)).toOption.isSome = true := by
    decide +kernel
  obtain ⟨text, h⟩ := Option.isSome_iff_exists.mp hsome
  rw [toOption_eq_some] at h
  obtain ⟨⟨_, cs, create, definitions, hline, hcs, hcreate, htable, htext⟩, hpath, horder⟩ :=
    migration_about_table h
  cases hline
  have hsnake : Name.snake "RecipeSteps" = "recipe_steps" := by decide +kernel
  have hdefaults : (Column.parse line).toOption.map (List.map (·.defaultValue)) =
      some [none, some "\x7b\x7b table \x7d\x7d"] := by decide +kernel
  obtain ⟨file, hfile, -, hplace⟩ := hpath none now
  have hstamp : now.stamp = "20240501123059" := by decide +kernel
  rw [hsnake] at htable htext hfile
  rw [hstamp] at hfile
  rw [hcs] at hdefaults
  have hn : now.Shown := ⟨2024, 5, 1, 12, 30, 59, 999, none, by decide +kernel⟩
  have hn' : now'.Shown := ⟨2024, 5, 1, 12, 31, 0, 0, none, by decide +kernel⟩
  have hlt : now.clock < now'.clock := by decide
  refine ⟨line, cs, create, definitions, text, now, now', h, hcs, Option.some.inj hdefaults,
    hcreate, htable, htext, ?_, hn, hn', hlt, horder "a" now now' hn hn' (by decide) hlt⟩
  rw [hplace, hfile]
  decide +kernel

end Project

end Scaffold
