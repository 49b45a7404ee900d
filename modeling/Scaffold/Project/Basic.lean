import Scaffold.Files.Path
import Scaffold.Sql.Migration

/-! # Projects

The settings of a project, and where its migrations go.
-/

namespace Scaffold

def Project.defaultKind : String := "other"

def Project.defaultDatabasePath : String := "supabase"

structure Project where
  /-- The settings file. -/
  path : Path
  name : Option String := none
  kind : String := Project.defaultKind
  /-- The directory of everything for the database service, as the settings have it. -/
  databasePath : String := Project.defaultDatabasePath
  deriving DecidableEq, Repr

namespace Project

def root (p : Project) : Path := p.path.parent

def migrationsDir (p : Project) : Path := p.root / p.databasePath / "migrations"

/-- The file of a migration that creates a table, in the project if there is one. -/
def migrationPath (project : Option Project) (name : String) (now : Moment) : Path :=
  match project with
  | some p => p.migrationsDir / Sql.migrationFile name now
  | none => Path.ofString defaultDatabasePath / "migrations" / Sql.migrationFile name now

end Project

end Scaffold
