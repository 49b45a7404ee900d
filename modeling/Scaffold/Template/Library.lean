import Scaffold.Drift.Access
import Scaffold.Model
import Scaffold.Provider
import Scaffold.Repository
import Scaffold.Route
import Scaffold.Sql.Migration
import Scaffold.Sql.Policy
import Scaffold.Sync

/-! # The template library

All packaged templates by category and name. A renderer remembers the templates that it has found,
so each is looked up once.
-/

namespace Scaffold.Template

def library : List Packaged :=
  [Drift.accessor, Drift.migration, Model.template, Route.template, Sync.rules, Sync.schema,
    Repository.template, Provider.notifier, Provider.asyncNotifier, Provider.future,
    Provider.stream, Provider.family, Sql.migrationTemplate, Sql.userOwned, Sql.teamOwned,
    Sql.publicRead, Sql.adminOnly]

/-- The parts of a path that lead anywhere. -/
def pathParts (path : List Char) : List (List Char) :=
  (Text.split '/' path).filter fun p => p ≠ [] ∧ p ≠ ['.']

def parent : List Char := ['.', '.']

/-- The template under a key; a key that leads upwards finds nothing. -/
def find? (key : String) : Option Packaged :=
  let parts := pathParts key.toList
  if parts.contains parent then none
  else
    library.find? fun p => parts = [p.category.toList, p.name.toList ++ Packaged.suffix.toList]

/-- Where a path into the library has led so far. -/
inductive Place
  | above
  | top
  | category (name : List Char)
  deriving DecidableEq, Repr

def top : List Char := "templates".toList

def Place.step : Place → List Char → Option Place
  | above, part => if part = Template.top then some top else none
  | top, part =>
    if part = parent then some above
    else if library.any fun p => p.category.toList = part then some (category part) else none
  | category _, part => if part = parent then some top else none

/-- The names of the templates in the category that a path leads to, in order. -/
def list (path : String) : List String :=
  if path.toList.head? = some '/' then []
  else
    match (pathParts path.toList).foldlM Place.step Place.top with
    | some (.category name) =>
      ((library.filter fun p => p.category.toList = name).map (·.name)).mergeSort
        fun a b => decide (a ≤ b)
    | _ => []

/-- The templates found so far, each under the key that it was asked for by. -/
structure Renderer where
  found : List (String × Packaged) := []

namespace Renderer

/-- The template under a key, and the renderer that remembers it. -/
def load (r : Renderer) (key : String) : Except Failure Packaged × Renderer :=
  match r.found.lookup key with
  | some p => (.ok p, r)
  | none =>
    match find? key with
    | some p => (.ok p, ⟨(key, p) :: r.found⟩)
    | none => (.error (Complaint.template key .notFound), r)

/-- The name that stands for the template itself. -/
def reserved : String := "self"

/-- The text of a template with variables, none of which may have the reserved name. -/
def render (r : Renderer) (category name : String) (scope : Scope) :
    Except Failure String × Renderer :=
  let key := Packaged.keyOf category name
  let (found, r) := r.load key
  let write (p : Packaged) : Except Failure String :=
    if (scope.lookup reserved).isSome then .error (Fault.reservedVariable reserved)
    else p.body.render key scope
  (found.bind write, r)

/-- The texts of several templates in turn, each written by the renderer that the last one left. -/
def renderAll (r : Renderer) : List (String × String × Scope) → List (Except Failure String)
  | [] => []
  | (category, name, scope) :: rest =>
    let (written, next) := r.render category name scope
    written :: next.renderAll rest

end Renderer

end Scaffold.Template
