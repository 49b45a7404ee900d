import Mathlib.Data.List.TakeWhile
import Scaffold.Proofs.Column.Names

/-! # Names that suit a table

Which names the statement and the class of a table accept, read off the names as they are given. A
form is refused for the first name that does not suit it, where the table comes before its columns.
-/

namespace Scaffold.Column

open Name

structure SuitsStatement (name : List Char) : Prop where
  identifier : isIdentifier name = true
  not_lone : name ≠ ['_']
  not_digit : ∀ d rest, name = '_' :: d :: rest → d.isDigit = false

structure SuitsClass (name : List Char) : Prop where
  identifier : isIdentifier name = true
  letter : ∃ c, name.find? (· != '_') = some c ∧ isLetter c = true

theorem isStatementName_iff {name : List Char} :
    isStatementName name = true ↔ SuitsStatement name := by
  constructor
  · intro h
    refine ⟨isIdentifier_of_isStatementName h, ?_, ?_⟩
    · rintro rfl
      cases h
    · rintro d rest rfl
      obtain ⟨_, _, he, hd, -⟩ := isIdentifier_iff.mp (h : isIdentifier (d :: rest) = true)
      cases he
      simpa [isWordStart_eq (isWordChar_of_isWordStart hd)] using hd
  · rintro ⟨hi, hlone, hdigit⟩
    match name with
    | [] => cases hi
    | c :: t =>
      by_cases hc : c = '_'
      · subst hc
        match t with
        | [] => exact absurd rfl hlone
        | d :: rest =>
          have hword : ∀ e ∈ d :: rest, isWordChar e = true := fun e he =>
            isWordChar_of_mem hi (List.mem_cons_of_mem _ he)
          have hd := hdigit d rest rfl
          change isIdentifier (d :: rest) = true
          rw [isIdentifier_of_isWordChar hword]
          simpa [isWordStart_eq (hword d List.mem_cons_self)] using hd
      · rwa [isStatementName, dropLeading, if_neg hc]

theorem isClassName_iff {name : List Char} : isClassName name = true ↔ SuitsClass name := by
  have hfirst : (bare name).head? = name.find? (· != '_') :=
    (List.find?_not_eq_head?_dropWhile (· == '_') name).symm
  constructor
  · intro h
    have hi := isIdentifier_of_isClassName h
    rw [isClassName_eq hi, hfirst, Option.any_eq_true] at h
    exact ⟨hi, h⟩
  · rintro ⟨hi, h⟩
    rwa [isClassName_eq hi, hfirst, Option.any_eq_true]

/-- What a form of a table is refused for: its name, or else the first column with a name that does
not suit the form. -/
inductive Refused (suits : List Char → Prop) (style : Place → String → String) (table : String)
    (cs : List Column) : Failure → Prop
  | table (h : ¬ suits table.toList) :
      Refused suits style table cs (refusal "table name" (style .table) table)
  | column {before after : List Column} {c : Column} (ht : suits table.toList)
      (hcs : cs = before ++ c :: after) (hb : ∀ b ∈ before, suits b.name.toList)
      (hc : ¬ suits c.name.toList) :
      Refused suits style table cs (refusal "column name" (style .column) c.name)

section Forms

variable {α : Type} {accepts : List Char → Bool} {suits : List Char → Prop}
  {style : Place → String → String} {table : String} {cs : List Column} {r : Except Failure α}
  {built : α} {f : Failure}

theorem firstRefused_eq_none_iff (hs : ∀ name, accepts name = true ↔ suits name) :
    firstRefused accepts table cs = none ↔
      suits table.toList ∧ ∀ c ∈ cs, suits c.name.toList := by
  simp [firstRefused_eq_none, names, hs]

theorem firstRefused_eq_some_iff (hs : ∀ name, accepts name = true ↔ suits name) :
    (∃ m, firstRefused accepts table cs = some m ∧ refusal m.1.role (style m.1) m.2 = f) ↔
      Refused suits style table cs f := by
  have hrefused {name : String} : (!accepts name.toList) = true ↔ ¬ suits name.toList := by
    rw [← hs, Bool.not_eq_true, Bool.not_eq_true']
  constructor
  · rintro ⟨⟨p, n⟩, h, rfl⟩
    obtain ⟨hn, pre, post, hnames, hpre⟩ := List.find?_eq_some_iff_append.mp h
    rw [hrefused] at hn
    rcases List.cons_eq_append_iff.mp hnames with ⟨rfl, hhead⟩ | ⟨before, rfl, hmap⟩
    · cases hhead
      exact .table hn
    · obtain ⟨before, rest, rfl, rfl, hrest⟩ := List.map_eq_append_iff.mp hmap
      obtain ⟨c, after, rfl, hc, -⟩ := List.map_eq_cons_iff.mp hrest
      cases hc
      have hsuits : ∀ m ∈ (Place.table, table) :: before.map fun c => (Place.column, c.name),
          suits m.2.toList := fun m hm => by
        have := hpre m hm
        rwa [Bool.not_not, hs] at this
      refine .column (hsuits _ List.mem_cons_self) rfl (fun b hb => ?_) hn
      exact hsuits (.column, b.name) (List.mem_cons_of_mem _ (List.mem_map.mpr ⟨b, hb, rfl⟩))
  · intro h
    cases h with
    | table h =>
      refine ⟨(.table, table), ?_, rfl⟩
      exact List.find?_cons_of_pos (hrefused.mpr h)
    | @column before after c ht hcs hb hc =>
      refine ⟨(.column, c.name), ?_, rfl⟩
      refine List.find?_eq_some_iff_append.mpr ⟨hrefused.mpr hc, (.table, table) ::
        before.map fun c => (.column, c.name), after.map fun c => (.column, c.name), ?_, ?_⟩
      · simp [names, hcs]
      · intro m hm
        rw [Bool.not_not, hs]
        rcases List.mem_cons.mp hm with rfl | hm
        · exact ht
        · obtain ⟨b, hbm, rfl⟩ := List.mem_map.mp hm
          exact hb b hbm

/-- A form that is refused for the first name that it does not accept is built exactly if all names
suit it. -/
theorem built_or_refused (hs : ∀ name, accepts name = true ↔ suits name)
    (hr : r = match firstRefused accepts table cs with
      | some (p, n) => .error (refusal p.role (style p) n)
      | none => .ok built) :
    ((∃ a, r = .ok a) ↔ suits table.toList ∧ ∀ c ∈ cs, suits c.name.toList) ∧
      ∀ f, r = .error f ↔ Refused suits style table cs f := by
  refine ⟨(exists_built_iff hr).trans (firstRefused_eq_none_iff hs), fun f => ?_⟩
  exact (eq_error_iff_firstRefused hr).trans (firstRefused_eq_some_iff hs)

end Forms

/-- The statement of a table can be written if and only if each name is an identifier that is no
lone underscore and does not start with an underscore and a digit; the class, if and only if each
name is an identifier with a letter behind the underscores at its head. Each is refused for the
first name that does not suit it. -/
theorem forms_accept_exactly (table : String) (cs : List Column) :
    ((∃ sql, Sql.createTable table cs = .ok sql) ↔
      SuitsStatement table.toList ∧ ∀ c ∈ cs, SuitsStatement c.name.toList) ∧
    ((∃ dart, Drift.tableClass table cs = .ok dart) ↔
      SuitsClass table.toList ∧ ∀ c ∈ cs, SuitsClass c.name.toList) ∧
    (∀ f, Sql.createTable table cs = .error f ↔
      Refused SuitsStatement (fun _ => Name.snake) table cs f) ∧
    ∀ f, Drift.tableClass table cs = .error f ↔ Refused SuitsClass classStyle table cs f := by
  obtain ⟨hsql, hsqlRefused⟩ :=
    built_or_refused (fun _ => isStatementName_iff) (@createTable_eq cs table)
  obtain ⟨hdart, hdartRefused⟩ :=
    built_or_refused (fun _ => isClassName_iff) (@tableClass_eq cs table)
  exact ⟨hsql, hdart, hsqlRefused, hdartRefused⟩

end Scaffold.Column
