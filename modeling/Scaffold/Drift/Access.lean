import Scaffold.Choice
import Scaffold.Column.Reading
import Scaffold.Drift.Table
import Scaffold.Template.Render

/-! # Client-side storage

The code of a client-side table: its class, an object to read and write its rows, and a step that
changes its schema, stamped with a day.
-/

namespace Scaffold.Drift

def accessor : Packaged where
  category := "drift"
  name := "dao.dart"
  body :=
    .bind "class_name" (.pascal (.var "name")) <|
    .bind "table_class" (.pascal (.var "table_name")) <|
    .bind "table_getter" (.camel (.var "table_name")) <|
    .bind "row_class" (.singular (.var "table_class")) <|
    .text ("import 'package:drift/drift.dart';\n\nimport '../database.dart';\n" ++
      "import '../tables/") <|
    .emit (.snake (.var "table_name")) <|
    .text ".dart';\n\npart '" <|
    .emit (.snake (.var "name")) <|
    .text "_dao.g.dart';\n\n@DriftAccessor(tables: [" <|
    .emit (.var "table_class") <|
    .text "])\nclass " <|
    .emit (.var "class_name") <|
    .text "Dao extends DatabaseAccessor<AppDatabase>\n    with _$" <|
    .emit (.var "class_name") <|
    .text "DaoMixin \x7b\n  " <|
    .emit (.var "class_name") <|
    .text "Dao(super.db);\n\n  Future<List<" <|
    .emit (.var "row_class") <|
    .text ">> getAll() => select(" <|
    .emit (.var "table_getter") <|
    .text ").get();\n\n  Stream<List<" <|
    .emit (.var "row_class") <|
    .text ">> watchAll() => select(" <|
    .emit (.var "table_getter") <|
    .text ").watch();\n\n  Future<" <|
    .emit (.var "row_class") <|
    .text "?> getById(int id) =>\n      (select(" <|
    .emit (.var "table_getter") <|
    .text (")..where((t) => t.id.equals(id))).getSingleOrNull();\n\n" ++
      "  Future<int> insertOne(Insertable<") <|
    .emit (.var "row_class") <|
    .text "> entry) =>\n      into(" <|
    .emit (.var "table_getter") <|
    .text ").insert(entry);\n\n  Future<bool> updateOne(Insertable<" <|
    .emit (.var "row_class") <|
    .text "> entry) =>\n      update(" <|
    .emit (.var "table_getter") <|
    .text ").replace(entry);\n\n  Future<int> deleteById(int id) =>\n      (delete(" <|
    .emit (.var "table_getter") <|
    .text ")..where((t) => t.id.equals(id))).go();\n\x7d\n" <|
    .done

def migration : Packaged where
  category := "drift"
  name := "migration.dart"
  body :=
    .bind "step_name" (.pascal (.var "name")) <|
    .text "// Migration " <|
    .emit (.var "date") <|
    .text ": " <|
    .emit (.var "name") <|
    .text "\nimport 'package:drift/drift.dart';\n\n/// Applies the \"" <|
    .emit (.var "name") <|
    .text ("\" schema step.\n///\n" ++
      "/// Call from `MigrationStrategy.onUpgrade` when moving past the schema\n" ++
      "/// version that introduced this change.\nFuture<void> migrate") <|
    .emit (.var "step_name") <|
    .emit (.var "date") <|
    .text ("(Migrator m) async \x7b\n  // Schema changes for this step, e.g.:\n" ++
      "  // await m.addColumn(table, table.column);\n  // await m.createTable(table);\n" ++
      "\x7d\n") <|
    .done

inductive Kind
  | table
  | accessor
  | migration
  deriving DecidableEq, Repr

namespace Kind

def all : List Kind := [table, accessor, migration]

def word : Kind → String
  | table => "table"
  | accessor => "dao"
  | migration => "migration"

end Kind

/-- The code of the kind that `kind` names; only a table needs columns. -/
def generate (today : Date) (kind name : String) (columns : Option String) :
    Except Failure String := do
  match ← choose "type" "types" Kind.word Kind.all kind with
  | .table =>
    match columns with
    | none | some "" => throw (.complaint (.missing .tableColumns))
    | some line => tableClass name (← Column.parse line)
  | .accessor =>
    Name.checkIdentifier name "DAO name"
    accessor.render [("name", .text name), ("table_name", .text name)]
  | .migration =>
    Name.checkIdentifier name "migration name"
    migration.render [("name", .text name), ("date", .text today.stamp)]

end Scaffold.Drift
