import Scaffold.Drift.Table
import Scaffold.Proofs.Fallible
import Scaffold.Proofs.Name.Head
import Scaffold.Sql.Table

/-! # Which names a table may have

Both forms of a table check the name of the table and then those of its columns, each before and
after it is spelled for its place. The statement drops one underscore at the head of a name and the
class drops all of them, so the class refuses every name that the statement refuses, and those that
have no letter behind two or more underscores.
-/

namespace Scaffold.Column

open Name

variable {cs : List Column} {table : String}

/-- How the check of a name ends: with the name, or with its spelling if only that is none. -/
def refusal (role : String) (style : String → String) (name : String) : Failure :=
  Complaint.illFormed (if isIdentifier name.toList then style name else name) role .identifier

theorem checkedName_cases (role : String) (style : String → String) (name : String) :
    checkedName role style name =
      if isIdentifier name.toList ∧ isIdentifier (style name).toList then .ok (style name)
      else .error (refusal role style name) := by
  unfold checkedName refusal Name.checkIdentifier
  cases isIdentifier name.toList
  · rfl
  · cases isIdentifier (style name).toList <;> rfl

/-! ### The first name that is refused -/

inductive Place
  | table
  | column
  deriving DecidableEq, Repr

def Place.role : Place → String
  | .table => "table name"
  | .column => "column name"

/-- The names of a table in the order in which they are checked. -/
def names (table : String) (cs : List Column) : List (Place × String) :=
  (.table, table) :: cs.map fun c => (.column, c.name)

def firstRefused (accepts : List Char → Bool) (table : String) (cs : List Column) :
    Option (Place × String) :=
  (names table cs).find? fun n => !accepts n.2.toList

/-- Spellings that accept certain names: what they make of an identifier is one again. -/
structure Accepts (accepts : List Char → Bool) (style : Place → String → String) : Prop where
  identifier : ∀ cs, accepts cs = true → isIdentifier cs = true
  spelled : ∀ p n, isIdentifier n.toList = true →
    isIdentifier (style p n).toList = accepts n.toList

theorem accepts_statement : Accepts isStatementName fun _ => Name.snake where
  identifier _ := isIdentifier_of_isStatementName
  spelled _ _ h := isIdentifier_snake h

def classStyle : Place → String → String
  | .table => Name.pascal
  | .column => Name.camel

theorem accepts_class : Accepts isClassName classStyle where
  identifier _ := isIdentifier_of_isClassName
  spelled p _ h := by
    cases p
    · exact isIdentifier_pascal h
    · exact isIdentifier_camel h

section Forms

variable {β γ : Type} {accepts : List Char → Bool} {style : Place → String → String}
  {ofColumn : Column → Except Failure β} {make : Column → String → β} {build : String → List β → γ}

theorem Accepts.checkedName_eq (h : Accepts accepts style) (p : Place) (name : String) :
    checkedName p.role (style p) name =
      if accepts name.toList then .ok (style p name)
      else .error (refusal p.role (style p) name) := by
  rw [checkedName_cases]
  by_cases hi : isIdentifier name.toList = true
  · simp [hi, h.spelled p name hi]
  · have ha : accepts name.toList ≠ true := fun ha => hi (h.identifier _ ha)
    simp [hi, ha]

theorem Accepts.isIdentifier_style (h : Accepts accepts style) (p : Place) {name : String}
    (ha : accepts name.toList = true) : isIdentifier (style p name).toList = true := by
  rw [h.spelled p name (h.identifier _ ha), ha]

/-- A form of a table: the name of the table is checked, and then each column is made in turn. -/
def form (style : Place → String → String) (make : Column → String → β)
    (build : String → List β → γ) (table : String) (cs : List Column) : Except Failure γ := do
  let name ← checkedName Place.table.role (style .table) table
  return build name (← cs.mapM fun c => do
    return make c (← checkedName Place.column.role (style .column) c.name))

theorem Accepts.form_eq (h : Accepts accepts style) :
    form style make build table cs = match firstRefused accepts table cs with
      | some (p, n) => .error (refusal p.role (style p) n)
      | none =>
        .ok (build (style .table table) (cs.map fun c => make c (style .column c.name))) := by
  have hcolumns : (cs.mapM fun c => do
      return make c (← checkedName Place.column.role (style .column) c.name)) =
      match (cs.map fun c => (Place.column, c.name)).find? fun n => !accepts n.2.toList with
      | some (p, n) => .error (refusal p.role (style p) n)
      | none => .ok (cs.map fun c => make c (style .column c.name)) := by
    induction cs with
    | nil => rfl
    | cons c cs ih =>
      rw [List.mapM_cons, ih, h.checkedName_eq, List.map_cons, List.find?_cons]
      cases accepts c.name.toList
      · rfl
      · cases (cs.map fun c => (Place.column, c.name)).find? fun n => !accepts n.2.toList <;> rfl
  unfold form firstRefused names
  rw [hcolumns, h.checkedName_eq, List.find?_cons]
  cases accepts table.toList
  · rfl
  · cases (cs.map fun c => (Place.column, c.name)).find? fun n => !accepts n.2.toList <;> rfl

end Forms

/-! ### The statement and the class -/

def definition (c : Column) (name : String) : Sql.Definition where
  name
  storage :=
    if c.primaryKey && c.autoIncrement then if c.kind = .uuid then .generatedUuid else .serial
    else .kind c.kind
  primaryKey := c.primaryKey
  notNull := !c.primaryKey && !c.nullable
  default := if c.primaryKey then none else c.literal?
  references := c.reference.bind (·.target?)

def getter (c : Column) (name : String) : Drift.Getter where
  name
  builder := c.kind.builder
  autoIncrement := c.primaryKey && c.autoIncrement
  nullable := c.nullable
  default := c.literal?

theorem definitions_eq : Sql.Table.ofColumns table cs =
    match firstRefused isStatementName table cs with
    | some (p, n) => .error (refusal p.role Name.snake n)
    | none => .ok ⟨Name.snake table, cs.map fun c => definition c (Name.snake c.name)⟩ := by
  have hform : Sql.Table.ofColumns table cs =
      form (fun _ => Name.snake) definition Sql.Table.mk table cs := rfl
  rw [hform, accepts_statement.form_eq]

theorem getters_eq : Drift.Table.ofColumns table cs =
    match firstRefused isClassName table cs with
    | some (p, n) => .error (refusal p.role (classStyle p) n)
    | none => .ok ⟨Name.pascal table, cs.map fun c => getter c (Name.camel c.name)⟩ := by
  have hform : Drift.Table.ofColumns table cs =
      form classStyle getter Drift.Table.mk table cs := rfl
  rw [hform, accepts_class.form_eq]
  rfl

theorem createTable_eq : Sql.createTable table cs =
    match firstRefused isStatementName table cs with
    | some (p, n) => .error (refusal p.role Name.snake n)
    | none => .ok (Sql.Table.text
        ⟨Name.snake table, cs.map fun c => definition c (Name.snake c.name)⟩) := by
  rw [Sql.createTable, definitions_eq]
  cases firstRefused isStatementName table cs <;> rfl

theorem tableClass_eq : Drift.tableClass table cs =
    match firstRefused isClassName table cs with
    | some (p, n) => .error (refusal p.role (classStyle p) n)
    | none => .ok (Drift.Table.text
        ⟨Name.pascal table, cs.map fun c => getter c (Name.camel c.name)⟩) := by
  rw [Drift.tableClass, getters_eq]
  cases firstRefused isClassName table cs <;> rfl

theorem firstRefused_eq_none {accepts : List Char → Bool} :
    firstRefused accepts table cs = none ↔ ∀ n ∈ names table cs, accepts n.2.toList = true := by
  simp [firstRefused]

section

variable {α : Type} {accepts : List Char → Bool} {style : Place → String → String}
  {r : Except Failure α} {built : α} {f : Failure}

/-- A form that is refused for the first name that it does not accept is built if there is none. -/
theorem exists_built_iff (hr : r = match firstRefused accepts table cs with
      | some (p, n) => .error (refusal p.role (style p) n)
      | none => .ok built) :
    (∃ a, r = .ok a) ↔ firstRefused accepts table cs = none := by
  rw [hr]
  cases firstRefused accepts table cs <;> simp

theorem eq_error_iff_firstRefused (hr : r = match firstRefused accepts table cs with
      | some (p, n) => .error (refusal p.role (style p) n)
      | none => .ok built) :
    r = .error f ↔
      ∃ m, firstRefused accepts table cs = some m ∧ refusal m.1.role (style m.1) m.2 = f := by
  rw [hr]
  cases firstRefused accepts table cs <;> simp

end

theorem isClassName_iff_of_statement {n : List Char} :
    isClassName n = true ↔ isStatementName n = true ∧ isHeadless n = false := by
  constructor
  · intro h
    refine ⟨isStatementName_of_isClassName h, ?_⟩
    by_contra hh
    rw [not_isClassName_of_isHeadless (Bool.not_eq_false _ ▸ hh)] at h
    cases h
  · rintro ⟨h, hh⟩
    rwa [isClassName_of_not_isHeadless hh]

/-- What the class refuses first is a headless name, or the statement refuses it first as well. -/
theorem firstRefused_isClassName {p : Place} {n : String}
    (h : firstRefused isClassName table cs = some (p, n)) :
    (p, n) ∈ names table cs ∧
      (isHeadless n.toList = true ∨ firstRefused isStatementName table cs = some (p, n)) := by
  refine ⟨List.mem_of_find?_eq_some h, ?_⟩
  obtain ⟨hn, pre, post, hnames, hpre⟩ := List.find?_eq_some_iff_append.mp h
  by_cases hh : isHeadless n.toList = true
  · exact Or.inl hh
  · right
    refine List.find?_eq_some_iff_append.mpr ⟨?_, pre, post, hnames, fun m hm => ?_⟩
    · rwa [← isClassName_of_not_isHeadless (Bool.not_eq_true _ ▸ hh)]
    · have hclass := hpre m hm
      rw [Bool.not_not] at hclass ⊢
      exact isStatementName_of_isClassName hclass

/-- The class of a table can be written if its statement can and no name is headless. Each form
fails with the refusal of a name, and the class with that of the name at which the statement fails
unless it fails at a headless name. -/
theorem forms_accept_alike (table : String) (cs : List Column) :
    ((∃ dart, Drift.tableClass table cs = .ok dart) ↔
      (∃ sql, Sql.createTable table cs = .ok sql) ∧
        ∀ n ∈ names table cs, isHeadless n.2.toList = false) ∧
    (∀ f, Sql.createTable table cs = .error f →
      ∃ p n, (p, n) ∈ names table cs ∧ f = refusal p.role Name.snake n) ∧
    ∀ f, Drift.tableClass table cs = .error f →
      ∃ p n, (p, n) ∈ names table cs ∧ f = refusal p.role (classStyle p) n ∧
        (isHeadless n.toList = true ∨
          Sql.createTable table cs = .error (refusal p.role Name.snake n)) := by
  refine ⟨?_, ?_, ?_⟩
  · rw [exists_built_iff (@tableClass_eq cs table), exists_built_iff (@createTable_eq cs table),
      firstRefused_eq_none, firstRefused_eq_none, ← forall₂_and]
    exact forall₂_congr fun n _ => isClassName_iff_of_statement
  · intro f hf
    obtain ⟨⟨p, n⟩, hr, rfl⟩ := (eq_error_iff_firstRefused (@createTable_eq cs table)).mp hf
    exact ⟨p, n, List.mem_of_find?_eq_some hr, rfl⟩
  · intro f hf
    obtain ⟨⟨p, n⟩, hr, rfl⟩ := (eq_error_iff_firstRefused (@tableClass_eq cs table)).mp hf
    obtain ⟨hmem, hfirst⟩ := firstRefused_isClassName hr
    refine ⟨p, n, hmem, rfl, hfirst.imp_right fun h => ?_⟩
    rw [createTable_eq, h]

def days : List Column :=
  [{ name := "id", kind := .integer, primaryKey := true, autoIncrement := true },
    { name := "_1stDay", kind := .text }]

theorem forms_accept_alike_days :
    Sql.createTable "todo" days =
        .error (Complaint.illFormed "1st_day" "column name" .identifier) ∧
      Drift.tableClass "todo" days =
        .error (Complaint.illFormed "1stDay" "column name" .identifier) ∧
      ∃ p n, (p, n) ∈ names "todo" days ∧
        Complaint.illFormed "1stDay" "column name" .identifier =
          refusal p.role (classStyle p) n := by
  have hsql : Sql.createTable "todo" days =
      .error (Complaint.illFormed "1st_day" "column name" .identifier) := by decide +kernel
  have hdart : Drift.tableClass "todo" days =
      .error (Complaint.illFormed "1stDay" "column name" .identifier) := by decide +kernel
  obtain ⟨p, n, hmem, hn, -⟩ := (forms_accept_alike "todo" days).2.2 _ hdart
  exact ⟨hsql, hdart, p, n, hmem, hn⟩

/-- The name that is left of two underscores and a digit starts with an underscore in the statement
and with the digit in the class. -/
theorem forms_differ_at_headless :
    Sql.createTable "__1" [] = .ok "CREATE TABLE _1 (\n\n);" ∧
      Drift.tableClass "__1" [] =
        .error (Complaint.illFormed "1" "table name" .identifier) := by
  decide +kernel

end Scaffold.Column
