import Scaffold.Choice
import Scaffold.Name.Grammar
import Scaffold.Template.Render

/-! # Synchronised tables

What it takes to keep the rows of one user of a table on the client: rules for the service, and a
schema for the client.
-/

namespace Scaffold.Sync

def rules : Packaged where
  category := "powersync"
  name := "rules.yaml"
  body :=
    .text "# PowerSync sync rules for " <|
    .emit (.var "table") <|
    .text ("\n# Merge into sync-rules.yaml under bucket_definitions.\nbucket_definitions:\n" ++
      "  user_") <|
    .emit (.snake (.var "table")) <|
    .text (":\n    parameters: SELECT request.user_id() AS user_id\n    data:\n" ++
      "      - SELECT * FROM ") <|
    .emit (.var "table") <|
    .text " WHERE " <|
    .emit (.var "user_column") <|
    .text " = bucket.user_id\n" <|
    .done

def schema : Packaged where
  category := "powersync"
  name := "schema.dart"
  body :=
    .text ("import 'package:powersync/powersync.dart';\n\n" ++
      "/// Client-side PowerSync schema for the `") <|
    .emit (.var "table") <|
    .text ("` table.\n///\n" ++
      "/// PowerSync adds the `id` column itself; list the synced columns here.\nconst ") <|
    .emit (.camel (.var "table")) <|
    .text "Table = Table('" <|
    .emit (.var "table") <|
    .text "', [\n  Column.text('" <|
    .emit (.var "user_column") <|
    .text "'),\n  Column.text('created_at'),\n  Column.text('updated_at'),\n]);\n" <|
    .done

inductive Kind
  | rules
  | schema
  deriving DecidableEq, Repr

namespace Kind

def all : List Kind := [rules, schema]

def word : Kind → String
  | rules => "rules"
  | schema => "schema"

def template : Kind → Packaged
  | rules => Sync.rules
  | schema => Sync.schema

end Kind

/-- The column that holds the user of a row when no other is named. -/
def defaultUserColumn : String := "user_id"

def generate (kind table : String) (userColumn : Option String) : Except Failure String := do
  let kind ← choose "type" "types" Kind.word Kind.all kind
  let userColumn := userColumn.getD defaultUserColumn
  Name.checkIdentifier table "table name"
  Name.checkIdentifier userColumn "user column"
  kind.template.render [("table", .text table), ("user_column", .text userColumn)]

end Scaffold.Sync
