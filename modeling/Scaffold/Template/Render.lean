import Scaffold.Failure
import Scaffold.Template.Basic

/-! # Rendering

A template is rendered with the variables in scope. The first variable or member that is asked for
and missing ends the rendering with a complaint; a value of the wrong kind ends it with a fault.
-/

namespace Scaffold

namespace Value

/-- The name of the kind of a value. -/
def kindName : Value → String
  | null => "NoneType"
  | bool _ => "bool"
  | int _ => "int"
  | float _ => "float"
  | text _ => "str"
  | bytes _ => "bytes"
  | date _ => "datetime.date"
  | moment _ => "datetime.datetime"
  | list _ | pairs _ | listAgain => "list"
  | map _ | mapAgain => "dict"
  | set _ => "set"

/-- How a complaint calls the owner of a missing member. -/
def ownerName : Value → String
  | null => "None"
  | v => v.kindName ++ " object"

/-- What a loop over a value goes through: the keys of a mapping, the characters of a text. -/
def items : Value → Except Failure (List Value)
  | list vs | set vs => .ok vs
  | map entries => .ok (entries.map (·.1))
  | pairs entries => .ok (entries.map fun e => list [e.1, e.2])
  | text s => .ok (s.toList.map fun c => text (String.ofList [c]))
  | listAgain | mapAgain => .ok []
  | v => .error (Fault.notIterable v.kindName)

end Value

namespace Filter

/-- Why a value other than a text cannot be respelled. -/
def refusal (f : Filter) (v : Value) : Fault :=
  match v with
  | .list _ | .pairs _ | .listAgain | .map _ | .mapAgain | .set _ => .notHashable v.kindName
  | _ =>
    match f with
    | singular | plural => .noMember v.kindName "lower"
    | _ => .notText v.kindName

def applyTo (f : Filter) : Value → Except Failure Value
  | .text s => .ok (.text (f.apply s))
  | v => .error (f.refusal v)

end Filter

namespace Template

/-- The variables in scope; the first of a name counts. -/
abbrev Scope := List (String × Value)

/-- The value of an expression in the template that is called `key`. -/
def Expr.eval (key : String) (scope : Scope) : Expr → Except Failure Value
  | var name =>
    match scope.lookup name with
    | some v => .ok v
    | none => .error (Complaint.template key (.undefinedVariable name))
  | literal s => .ok (.text s)
  | member owner field => do
    let v ← owner.eval key scope
    match v.field? field with
    | some w => .ok w
    | none => .error (Complaint.template key (.undefinedMember v.ownerName field))
  | filter f e => do f.applyTo (← e.eval key scope)
  | choose condition yes no => do
    let v ← condition.eval key scope
    if v.isTruthy then yes.eval key scope else no.eval key scope

/-- The text that a template writes. -/
def render (key : String) (scope : Scope) : Template → Except Failure String
  | done => .ok ""
  | text s next => do
    let rest ← next.render key scope
    return s ++ rest
  | emit e next => do
    let v ← e.eval key scope
    let rest ← next.render key scope
    return v.display ++ rest
  | bind name e next => do
    let v ← e.eval key scope
    next.render key ((name, v) :: scope)
  | each name items body next => do
    let vs ← (← items.eval key scope).items
    let parts ← vs.mapM fun v => body.render key ((name, v) :: scope)
    let rest ← next.render key scope
    return String.join parts ++ rest
  | choose condition yes no next => do
    let v ← condition.eval key scope
    let part ← if v.isTruthy then yes.render key scope else no.render key scope
    let rest ← next.render key scope
    return part ++ rest

end Template

/-- A template under its category and name. -/
structure Packaged where
  category : String
  name : String
  body : Template

namespace Packaged

def suffix : String := ".j2"

/-- The name by which a template is asked for. -/
def keyOf (category name : String) : String := category ++ "/" ++ name ++ suffix

def key (p : Packaged) : String := keyOf p.category p.name

def render (p : Packaged) (scope : Template.Scope) : Except Failure String :=
  p.body.render p.key scope

end Packaged

end Scaffold
