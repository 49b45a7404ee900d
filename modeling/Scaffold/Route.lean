import Scaffold.Name.Grammar
import Scaffold.Template.Render
import Scaffold.Text.Blank

/-! # Routes

A route leads from a path to a screen. A path may hold parameters, each a name after a colon; they
can also be listed with their types.
-/

namespace Scaffold.Route

structure Param where
  name : String
  type : String
  deriving DecidableEq, Repr

namespace Param

def defaultType : String := "String"

/-- Types that are read from the text of a path. -/
def readTypes : List String := ["int", "double", "num"]

/-- The expression that takes the parameter out of the state of the route. -/
def expression (p : Param) : String :=
  let raw := "state.pathParameters['" ++ p.name ++ "']!"
  if readTypes.contains p.type then p.type ++ ".parse(" ++ raw ++ ")" else raw

/-- The parameter written by one part of a parameter line; a part without a name writes none. -/
def ofSegment (cs : List Char) : Except Failure (Option Param) := do
  let (name, type) := Text.cut ':' cs
  let name := Text.trim name
  let type := Text.trim (type.getD [])
  if name = [] then return none
  let param : Param := ⟨String.ofList name, if type = [] then defaultType else String.ofList type⟩
  Name.checkIdentifier param.name "path parameter"
  Name.checkTypeName param.type "parameter type"
  return some param

/-- The parameters of a line of `name:Type` pairs between commas. -/
def parse (line : String) : Except Failure (List Param) := do
  return (← (Text.split ',' line.toList).mapM ofSegment).filterMap id

def value (p : Param) : Value :=
  .map [(.text "name", .text p.name), (.text "expression", .text p.expression)]

end Param

/-- The words of a path that stand directly after a colon; `inWord` says whether one may go on. -/
def paramNamesFrom (inWord : Bool) : List Char → List (List Char)
  | [] => if inWord then [[]] else []
  | c :: cs =>
    if inWord then
      if Name.isWordChar c then
        match paramNamesFrom true cs with
        | [] => [[c]]
        | w :: ws => (c :: w) :: ws
      else [] :: paramNamesFrom (c == ':') cs
    else paramNamesFrom (c == ':') cs

/-- The names of the parameters of a path. -/
def paramNames (path : List Char) : List (List Char) := (paramNamesFrom false path).filter (· ≠ [])

/-- The path of a route: the given one, or its name with hyphens. -/
def path (name : String) (given : Option String) : Except Failure String := do
  let path :=
    match given with
    | none | some "" => "/" ++ Name.kebab name
    | some p => p
  Name.checkRoutePath path
  return path

/-- The listed parameters, or those of the path when none is listed. -/
def params (path : String) (listed : Option String) : Except Failure (List Param) := do
  let own ← Param.parse (listed.getD "")
  if own.isEmpty then
    Param.parse (String.ofList (Text.join [','] (paramNames path.toList)))
  else return own

def template : Packaged where
  category := "gorouter"
  name := "route.dart"
  body :=
    .text "import 'package:go_router/go_router.dart';\n\nimport '../screens/" <|
    .emit (.snake (.var "name")) <|
    .text "_screen.dart';\n\nfinal " <|
    .emit (.camel (.var "name")) <|
    .text "Route = GoRoute(\n  path: '" <|
    .emit (.var "path") <|
    .text "',\n  name: '" <|
    .emit (.var "route_name") <|
    .text "',\n  builder: (context, state) \x7b\n" <|
    .each "param" (.var "params")
      (.text "    final " <|
       .emit (.member (.var "param") "name") <|
       .text " = " <|
       .emit (.member (.var "param") "expression") <|
       .text ";\n" <|
       .done) <|
    .choose (.var "params")
      (.text "    return " <|
       .emit (.var "screen_name") <|
       .text "(\n" <|
       .each "param" (.var "params")
          (.text "      " <|
           .emit (.member (.var "param") "name") <|
           .text ": " <|
           .emit (.member (.var "param") "name") <|
           .text ",\n" <|
           .done) <|
       .text "    );\n" <|
       .done)
      (.text "    return const " <|
       .emit (.var "screen_name") <|
       .text "();\n" <|
       .done) <|
    .text "  \x7d,\n);\n" <|
    .done

def generate (name : String) (given listed : Option String) : Except Failure String := do
  Name.checkIdentifier name "route name"
  let path ← path name given
  let params ← params path listed
  template.render
    [("name", .text name), ("route_name", .text (Name.kebab name)), ("path", .text path),
      ("params", .list (params.map Param.value)),
      ("screen_name", .text (Name.pascal name ++ "Screen"))]

end Scaffold.Route
