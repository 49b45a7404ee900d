import Scaffold.Name.Inflection
import Scaffold.Value

/-! # Templates

A template is a sequence of texts and instructions. Each instruction holds the template that comes
after it, so what a template writes is read off by one recursion.
-/

namespace Scaffold

/-- A respelling of a name. -/
inductive Filter
  | snake
  | kebab
  | camel
  | pascal
  | singular
  | plural
  deriving DecidableEq, Repr

def Filter.apply : Filter → String → String
  | snake => Name.snake
  | kebab => Name.kebab
  | camel => Name.camel
  | pascal => Name.pascal
  | singular => Name.singularize
  | plural => Name.pluralize

namespace Template

inductive Expr
  | var (name : String)
  | literal (s : String)
  | member (owner : Expr) (field : String)
  | filter (f : Filter) (e : Expr)
  | choose (condition yes no : Expr)
  deriving DecidableEq, Repr

namespace Expr

abbrev snake (e : Expr) : Expr := .filter .snake e
abbrev camel (e : Expr) : Expr := .filter .camel e
abbrev pascal (e : Expr) : Expr := .filter .pascal e
abbrev singular (e : Expr) : Expr := .filter .singular e
abbrev plural (e : Expr) : Expr := .filter .plural e

end Expr

end Template

inductive Template
  | done
  | text (s : String) (next : Template)
  | emit (e : Template.Expr) (next : Template)
  | bind (name : String) (e : Template.Expr) (next : Template)
  | each (name : String) (items : Template.Expr) (body next : Template)
  | choose (condition : Template.Expr) (yes no next : Template)
  deriving DecidableEq, Repr

end Scaffold
