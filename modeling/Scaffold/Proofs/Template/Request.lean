import Scaffold.Proofs.Template.Records

/-! # Generated texts for two requests

Nothing that is asked of a generator can add to the structure of its text: for two requests of one
kind the texts are equal but for the characters of names, types and paths.
-/

namespace Scaffold

open Name (isTypeChar)

namespace Template

/-- What is asked of a generator that fills in a template. -/
inductive Request
  | provider (pattern name : String) (state : Option String)
  | storage (today : Date) (kind name : String) (columns : Option String)
  | repository (name : String) (entity : Option String)
  | sync (kind table : String) (userColumn : Option String)
  | policies (table policy column : String)
  | model (name : String) (fields : Option String)
  | route (name : String) (given listed : Option String)
  deriving DecidableEq, Repr

namespace Request

def text : Request → Except Failure String
  | provider pattern name state => Provider.generate pattern name state
  | storage today kind name columns => Drift.generate today kind name columns
  | repository name entity => Repository.generate name entity
  | sync kind table userColumn => Sync.generate kind table userColumn
  | policies table policy column => Sql.policies table policy column
  | model name fields => Model.generate name fields
  | route name given listed => Route.generate name given listed

def isFreeChar : Request → Char → Bool
  | route .. => Route.isFreeChar
  | _ => isTypeChar

/-- Whether two requests ask for the same kind of text: with the same pattern and a state or none,
for the same part of the storage, with the same policy, with as many fields, or with as many
parameters of which the same ones are read from the text of the path. -/
inductive SameKind : Request → Request → Prop
  | provider {pattern name name' : String} {state state' : Option String} :
      state.isSome = state'.isSome →
      SameKind (.provider pattern name state) (.provider pattern name' state')
  | storage {kind : Drift.Kind} {today today' : Date} {name name' : String}
      {columns columns' : Option String} : kind ≠ .table →
      SameKind (.storage today kind.word name columns) (.storage today' kind.word name' columns')
  | repository (name name' : String) (entity entity' : Option String) :
      SameKind (.repository name entity) (.repository name' entity')
  | sync (kind table table' : String) (userColumn userColumn' : Option String) :
      SameKind (.sync kind table userColumn) (.sync kind table' userColumn')
  | policies (policy table table' column column' : String) :
      SameKind (.policies table policy column) (.policies table' policy column')
  | model {name name' : String} {line line' : Option String} {fs fs' : List Field} :
      Field.parse (line.getD "") = .ok fs → Field.parse (line'.getD "") = .ok fs' →
      fs.length = fs'.length → SameKind (.model name line) (.model name' line')
  | route {name name' : String} {given given' listed listed' : Option String}
      {ps ps' : List Route.Param} : Route.paramsOf name given listed = .ok ps →
      Route.paramsOf name' given' listed' = .ok ps' →
      List.Forall₂ (fun p q => p.isRead = q.isRead) ps ps' →
      SameKind (.route name given listed) (.route name' given' listed')

/-- The characters that give the generated texts their structure. -/
def marks : List Char := ['\'', '"', '\x60', ';', '(', ')', '\x7b', '\x7d', '$', '\\', '\n']

theorem isFreeChar_marks (q : Request) : ∀ c ∈ marks, q.isFreeChar c = false := by
  have htype : marks.all (fun c => !isTypeChar c) = true := by decide
  have hroute : marks.all (fun c => !Route.isFreeChar c) = true := by decide
  simp only [List.all_eq_true, Bool.not_eq_true'] at htype hroute
  cases q with
  | route => exact hroute
  | _ => exact htype

theorem filter_skeleton (q : Request) (s : String) :
    (skeleton q.isFreeChar s).filter marks.contains = s.toList.filter marks.contains := by
  rw [skeleton, List.filter_filter]
  refine List.filter_congr fun c _ => ?_
  cases hc : marks.contains c with
  | false => rfl
  | true => simp [q.isFreeChar_marks c (by simpa using hc)]

/-- The texts for two requests of the same kind are equal without the characters that names, types
and paths are made of, so they hold the same marks in the same order. -/
theorem texts_share_skeleton {q q' : Request} {s t : String} (hk : q.SameKind q')
    (h : q.text = .ok s) (h' : q'.text = .ok t) :
    skeleton q.isFreeChar s = skeleton q.isFreeChar t ∧
      s.toList.filter marks.contains = t.toList.filter marks.contains := by
  have hskeleton : skeleton q.isFreeChar s = skeleton q.isFreeChar t := by
    cases hk with
    | provider hs => exact Provider.skeleton_generate hs h h'
    | storage hk => exact Drift.skeleton_generate hk h h'
    | repository => exact Repository.skeleton_generate h h'
    | sync => exact Sync.skeleton_generate h h'
    | policies => exact Sql.skeleton_policies h h'
    | model hl hl' hlen => exact Model.skeleton_generate hl hl' hlen h h'
    | route hps hps' hread => exact Route.skeleton_generate hps hps' hread h h'
  exact ⟨hskeleton, by rw [← q.filter_skeleton s, ← q.filter_skeleton t, hskeleton]⟩

def recipe : Request := .route "recipeDetail" (some "/recipe/:id") none

def posts : Request := .route "user_posts" (some "/users-all/:userId") (some "userId:List<int>?")

theorem texts_share_skeleton_routes : ∃ s t, recipe.SameKind posts ∧ recipe.text = .ok s ∧
    posts.text = .ok t ∧ s ≠ t ∧ skeleton Route.isFreeChar s = skeleton Route.isFreeChar t ∧
    s.toList.filter marks.contains = t.toList.filter marks.contains := by
  have hid : Route.paramsOf "recipeDetail" (some "/recipe/:id") none =
      .ok [⟨"id", "String"⟩] := by decide +kernel
  have huser : Route.paramsOf "user_posts" (some "/users-all/:userId") (some "userId:List<int>?") =
      .ok [⟨"userId", "List<int>?"⟩] := by decide +kernel
  have hkind : recipe.SameKind posts := .route hid huser (.cons (by decide) .nil)
  have hsome : recipe.text.toOption.isSome = true ∧ posts.text.toOption.isSome = true := by
    decide +kernel
  have hne : recipe.text.toOption ≠ posts.text.toOption := by decide +kernel
  obtain ⟨s, hs⟩ := Option.isSome_iff_exists.mp hsome.1
  obtain ⟨t, ht⟩ := Option.isSome_iff_exists.mp hsome.2
  rw [hs, ht] at hne
  rw [toOption_eq_some] at hs ht
  obtain ⟨hskeleton, hmarks⟩ := texts_share_skeleton hkind hs ht
  exact ⟨s, t, hkind, hs, ht, by simpa using hne, hskeleton, hmarks⟩

end Request

end Template

end Scaffold
