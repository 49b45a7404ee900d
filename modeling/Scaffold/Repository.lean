import Scaffold.Name.Grammar
import Scaffold.Template.Render

/-! # Repositories

A repository is an interface to the stored records of one entity, and an implementation of it. The
entity is named after the repository unless it has a name of its own.
-/

namespace Scaffold.Repository

def template : Packaged where
  category := "repository"
  name := "repository.dart"
  body :=
    .bind "entity_var" (.camel (.var "entity_name")) <|
    .bind "entity_file" (.snake (.var "entity_name")) <|
    .text "import 'package:supabase_flutter/supabase_flutter.dart';\n\nimport '../models/" <|
    .emit (.var "entity_file") <|
    .text ".dart';\n\nabstract class " <|
    .emit (.var "repository_name") <|
    .text " \x7b\n  Future<List<" <|
    .emit (.var "entity_name") <|
    .text ">> getAll();\n\n  Future<" <|
    .emit (.var "entity_name") <|
    .text "?> getById(String id);\n\n  Future<" <|
    .emit (.var "entity_name") <|
    .text "> create(" <|
    .emit (.var "entity_name") <|
    .text " " <|
    .emit (.var "entity_var") <|
    .text ");\n\n  Future<" <|
    .emit (.var "entity_name") <|
    .text "> update(" <|
    .emit (.var "entity_name") <|
    .text " " <|
    .emit (.var "entity_var") <|
    .text ");\n\n  Future<void> delete(String id);\n\x7d\n\nclass Supabase" <|
    .emit (.var "repository_name") <|
    .text " implements " <|
    .emit (.var "repository_name") <|
    .text " \x7b\n  Supabase" <|
    .emit (.var "repository_name") <|
    .text "(this._client);\n\n  final SupabaseClient _client;\n\n  static const _table = '" <|
    .emit (.plural (.var "entity_file")) <|
    .text "';\n\n  @override\n  Future<List<" <|
    .emit (.var "entity_name") <|
    .text (">> getAll() async \x7b\n    final rows = await _client.from(_table).select();\n" ++
      "    return rows.map(") <|
    .emit (.var "entity_name") <|
    .text ".fromJson).toList();\n  \x7d\n\n  @override\n  Future<" <|
    .emit (.var "entity_name") <|
    .text ("?> getById(String id) async \x7b\n" ++
      "    final row = await _client.from(_table).select().eq('id', id).maybeSingle();\n" ++
      "    return row == null ? null : ") <|
    .emit (.var "entity_name") <|
    .text ".fromJson(row);\n  \x7d\n\n  @override\n  Future<" <|
    .emit (.var "entity_name") <|
    .text "> create(" <|
    .emit (.var "entity_name") <|
    .text " " <|
    .emit (.var "entity_var") <|
    .text (") async \x7b\n    final row = await _client\n        .from(_table)\n" ++
      "        .insert(") <|
    .emit (.var "entity_var") <|
    .text ".toJson())\n        .select()\n        .single();\n    return " <|
    .emit (.var "entity_name") <|
    .text ".fromJson(row);\n  \x7d\n\n  @override\n  Future<" <|
    .emit (.var "entity_name") <|
    .text "> update(" <|
    .emit (.var "entity_name") <|
    .text " " <|
    .emit (.var "entity_var") <|
    .text (") async \x7b\n    final row = await _client\n        .from(_table)\n" ++
      "        .update(") <|
    .emit (.var "entity_var") <|
    .text ".toJson())\n        .eq('id', " <|
    .emit (.var "entity_var") <|
    .text ".id)\n        .select()\n        .single();\n    return " <|
    .emit (.var "entity_name") <|
    .text (".fromJson(row);\n  \x7d\n\n  @override\n" ++
      "  Future<void> delete(String id) async \x7b\n" ++
      "    await _client.from(_table).delete().eq('id', id);\n  \x7d\n\x7d\n") <|
    .done

def suffix : String := "Repository"

/-- A name without the suffix, in whatever case it is written. -/
def dropSuffix (cs : List Char) : List Char :=
  let n := cs.length - suffix.length
  if Text.lower (cs.drop n) = Text.lower suffix.toList then cs.take n else cs

structure Names where
  repository : String
  entity : String
  deriving DecidableEq, Repr

/-- The class names of a repository and its entity. -/
def Names.ofName (name : String) (entity : Option String) : Except Failure Names := do
  Name.checkIdentifier name "repository name"
  let entity := entity.getD (String.ofList (dropSuffix name.toList))
  Name.checkIdentifier entity "entity name"
  let repository := Name.pascal name
  return {
    repository :=
      if (Text.before? suffix.toList repository.toList).isSome then repository
      else repository ++ suffix
    entity := Name.pascal entity }

def generate (name : String) (entity : Option String) : Except Failure String := do
  let names ← Names.ofName name entity
  template.render [("repository_name", .text names.repository), ("entity_name", .text names.entity)]

end Scaffold.Repository
