import Scaffold.Choice
import Scaffold.Name.Grammar
import Scaffold.Template.Render

/-! # Providers

State providers in five patterns. The state of a provider is a type; without one it is dynamic, and
a notifier then has no setter.
-/

namespace Scaffold.Provider

def notifier : Packaged where
  category := "riverpod"
  name := "notifier.dart"
  body :=
    .bind "class_name" (.pascal (.var "name")) <|
    .text "import 'package:riverpod_annotation/riverpod_annotation.dart';\n\npart '" <|
    .emit (.snake (.var "name")) <|
    .text "_provider.g.dart';\n\n@riverpod\nclass " <|
    .emit (.var "class_name") <|
    .text " extends _$" <|
    .emit (.var "class_name") <|
    .text " \x7b\n  @override\n  " <|
    .emit (.var "state") <|
    .text " build() \x7b\n    throw UnimplementedError('Return the initial state of " <|
    .emit (.var "class_name") <|
    .text "');\n  \x7d\n" <|
    .choose (.var "has_state")
      (.text "\n  void set(" <|
       .emit (.var "state") <|
       .text " value) => state = value;\n" <|
       .done)
      .done <|
    .text "\x7d\n" <|
    .done

def asyncNotifier : Packaged where
  category := "riverpod"
  name := "async_notifier.dart"
  body :=
    .bind "class_name" (.pascal (.var "name")) <|
    .text "import 'package:riverpod_annotation/riverpod_annotation.dart';\n\npart '" <|
    .emit (.snake (.var "name")) <|
    .text "_provider.g.dart';\n\n@riverpod\nclass " <|
    .emit (.var "class_name") <|
    .text " extends _$" <|
    .emit (.var "class_name") <|
    .text " \x7b\n  @override\n  Future<" <|
    .emit (.var "state") <|
    .text "> build() async \x7b\n    throw UnimplementedError('Load the initial state of " <|
    .emit (.var "class_name") <|
    .text ("');\n  \x7d\n\n  Future<void> refresh() async \x7b\n" ++
      "    state = const AsyncLoading();\n    state = await AsyncValue.guard(build);\n" ++
      "  \x7d\n\x7d\n") <|
    .done

def future : Packaged where
  category := "riverpod"
  name := "future.dart"
  body :=
    .text "import 'package:riverpod_annotation/riverpod_annotation.dart';\n\npart '" <|
    .emit (.snake (.var "name")) <|
    .text "_provider.g.dart';\n\n@riverpod\nFuture<" <|
    .emit (.var "state") <|
    .text "> " <|
    .emit (.camel (.var "name")) <|
    .text "(Ref ref) async \x7b\n  throw UnimplementedError('Fetch the value of " <|
    .emit (.camel (.var "name")) <|
    .text "');\n\x7d\n" <|
    .done

def stream : Packaged where
  category := "riverpod"
  name := "stream.dart"
  body :=
    .text "import 'package:riverpod_annotation/riverpod_annotation.dart';\n\npart '" <|
    .emit (.snake (.var "name")) <|
    .text "_provider.g.dart';\n\n@riverpod\nStream<" <|
    .emit (.var "state") <|
    .text "> " <|
    .emit (.camel (.var "name")) <|
    .text "(Ref ref) async* \x7b\n  throw UnimplementedError('Emit values for " <|
    .emit (.camel (.var "name")) <|
    .text "');\n\x7d\n" <|
    .done

def family : Packaged where
  category := "riverpod"
  name := "family.dart"
  body :=
    .text "import 'package:riverpod_annotation/riverpod_annotation.dart';\n\npart '" <|
    .emit (.snake (.var "name")) <|
    .text "_provider.g.dart';\n\n@riverpod\nFuture<" <|
    .emit (.var "state") <|
    .text "> " <|
    .emit (.camel (.var "name")) <|
    .text "(Ref ref, String id) async \x7b\n  throw UnimplementedError('Fetch " <|
    .emit (.camel (.var "name")) <|
    .text " for $id');\n\x7d\n" <|
    .done

inductive Pattern
  | notifier
  | asyncNotifier
  | future
  | stream
  | family
  deriving DecidableEq, Repr

namespace Pattern

def all : List Pattern := [notifier, asyncNotifier, future, stream, family]

def word : Pattern → String
  | notifier => "notifier"
  | asyncNotifier => "async-notifier"
  | future => "future"
  | stream => "stream"
  | family => "family"

def template : Pattern → Packaged
  | notifier => Provider.notifier
  | asyncNotifier => Provider.asyncNotifier
  | future => Provider.future
  | stream => Provider.stream
  | family => Provider.family

end Pattern

def defaultState : String := "dynamic"

/-- A provider in the pattern that `pattern` names. -/
def generate (pattern name : String) (state : Option String) : Except Failure String := do
  let pattern ← choose "pattern" "patterns" Pattern.word Pattern.all pattern
  Name.checkIdentifier name "provider name"
  if let some type := state then
    Name.checkTypeName type "state type"
  pattern.template.render
    [("name", .text name), ("state", .text (state.getD defaultState)),
      ("has_state", .bool state.isSome)]

end Scaffold.Provider
