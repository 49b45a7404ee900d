import Scaffold.Proofs.Template.Marks
import Scaffold.Proofs.Template.Request

/-! # What a request fills in

A generated text is that of one template, with what is asked as its variables, once that has passed
its checks.
-/

namespace Scaffold

open Name (isIdentifier)
open Template (Scope)

theorem word_of_choose {α : Type} {what plural value : String} {word : α → String} {all : List α}
    {a : α} (h : choose what plural word all value = .ok a) : word a = value := by
  unfold choose at h
  split at h
  · rename_i b hb
    cases h
    simpa using List.find?_some hb
  · cases h

namespace Template.Request

/-- The template that a request fills in, and the variables that it fills it in with. -/
inductive Fills : Request → Packaged → Scope → Prop
  | provider (p : Provider.Pattern) {name : String} {state : Option String} :
      isIdentifier name.toList = true →
      Fills (.provider p.word name state) p.template
        [("name", .text name), ("state", .text (state.getD Provider.defaultState)),
          ("has_state", .bool state.isSome)]
  | accessor {today : Date} {name : String} {columns : Option String} :
      isIdentifier name.toList = true →
      Fills (.storage today Drift.Kind.accessor.word name columns) Drift.accessor
        [("name", .text name), ("table_name", .text name)]
  | migration {today : Date} {name : String} {columns : Option String} :
      isIdentifier name.toList = true →
      Fills (.storage today Drift.Kind.migration.word name columns) Drift.migration
        [("name", .text name), ("date", .text today.stamp)]
  | repository {name : String} {entity : Option String} {names : Repository.Names} :
      Repository.Names.ofName name entity = .ok names →
      Fills (.repository name entity) Repository.template
        [("repository_name", .text names.repository), ("entity_name", .text names.entity)]
  | sync (k : Sync.Kind) {table : String} {userColumn : Option String} :
      isIdentifier table.toList = true →
      isIdentifier (userColumn.getD Sync.defaultUserColumn).toList = true →
      Fills (.sync k.word table userColumn) k.template
        [("table", .text table), ("user_column", .text (userColumn.getD Sync.defaultUserColumn))]
  | policies (p : Sql.Policy) {table column : String} :
      isIdentifier table.toList = true → isIdentifier column.toList = true →
      Fills (.policies table p.word column) p.template
        [("table", .text table), ("column", .text column)]
  | model {name : String} {line : Option String} {fs : List Field} :
      isIdentifier name.toList = true → Field.parse (line.getD "") = .ok fs →
      Fills (.model name line) Model.template
        [("name", .text name), ("fields", .list (fs.map Field.value))]
  | route {name path : String} {given listed : Option String} {ps : List Route.Param} :
      isIdentifier name.toList = true → Route.path name given = .ok path →
      Route.params path listed = .ok ps →
      Fills (.route name given listed) Route.template
        [("name", .text name), ("route_name", .text (Name.kebab name)), ("path", .text path),
          ("params", .list (ps.map Route.Param.value)),
          ("screen_name", .text (Name.pascal name ++ "Screen"))]

inductive IsTable : Request → Prop
  | storage {today : Date} {name : String} {columns : Option String} :
      IsTable (.storage today Drift.Kind.table.word name columns)

open Name (checkIdentifier_eq_ok) in
/-- A generated text is that of the template that its request fills in. -/
theorem exists_fills {q : Request} {s : String} (h : q.text = .ok s) (ht : ¬ q.IsTable) :
    ∃ p scope, q.Fills p scope ∧ p.render scope = .ok s := by
  cases q with
  | provider pattern name state =>
    obtain ⟨p, hp, hrest⟩ := bind_eq_ok.mp h
    obtain rfl := word_of_choose hp
    obtain ⟨hn, hstate⟩ := check_bind_eq_ok.mp hrest
    refine ⟨_, _, .provider p (checkIdentifier_eq_ok.mp hn), ?_⟩
    cases state with
    | none => exact hstate
    | some type => exact (check_bind_eq_ok.mp hstate).2
  | storage today kind name columns =>
    obtain ⟨k, hk, hrest⟩ := bind_eq_ok.mp h
    obtain rfl := word_of_choose hk
    cases k with
    | table => exact absurd .storage ht
    | accessor =>
      obtain ⟨hn, hs⟩ := check_bind_eq_ok.mp hrest
      exact ⟨_, _, .accessor (checkIdentifier_eq_ok.mp hn), hs⟩
    | migration =>
      obtain ⟨hn, hs⟩ := check_bind_eq_ok.mp hrest
      exact ⟨_, _, .migration (checkIdentifier_eq_ok.mp hn), hs⟩
  | repository name entity =>
    obtain ⟨names, hnames, hs⟩ := bind_eq_ok.mp h
    exact ⟨_, _, .repository hnames, hs⟩
  | sync kind table userColumn =>
    obtain ⟨k, hk, hrest⟩ := bind_eq_ok.mp h
    obtain rfl := word_of_choose hk
    obtain ⟨ht, hrest⟩ := check_bind_eq_ok.mp hrest
    obtain ⟨hu, hs⟩ := check_bind_eq_ok.mp hrest
    exact ⟨_, _, .sync k (checkIdentifier_eq_ok.mp ht) (checkIdentifier_eq_ok.mp hu), hs⟩
  | policies table policy column =>
    obtain ⟨p, hp, hrest⟩ := bind_eq_ok.mp h
    obtain rfl := word_of_choose hp
    obtain ⟨ht, hrest⟩ := check_bind_eq_ok.mp hrest
    obtain ⟨hc, hs⟩ := check_bind_eq_ok.mp hrest
    exact ⟨_, _, .policies p (checkIdentifier_eq_ok.mp ht) (checkIdentifier_eq_ok.mp hc), hs⟩
  | model name line =>
    obtain ⟨hn, hrest⟩ := check_bind_eq_ok.mp h
    obtain ⟨fs, hfs, hrest⟩ := bind_eq_ok.mp hrest
    dsimp only at hrest
    split at hrest
    · cases hrest
    · exact ⟨_, _, .model (checkIdentifier_eq_ok.mp hn) hfs, hrest⟩
  | route name given listed =>
    obtain ⟨hn, hrest⟩ := check_bind_eq_ok.mp h
    obtain ⟨path, hpath, hrest⟩ := bind_eq_ok.mp hrest
    obtain ⟨ps, hps, hs⟩ := bind_eq_ok.mp hrest
    exact ⟨_, _, .route (checkIdentifier_eq_ok.mp hn) hpath hps, hs⟩

theorem exists_marked {q : Request} {s : String} (h : q.text = .ok s) (ht : ¬ q.IsTable) :
    ∃ p scope xs, q.Fills p scope ∧ p.body.marked p.key scope = .ok xs ∧ plain xs = s := by
  obtain ⟨p, scope, hq, hs⟩ := exists_fills h ht
  rw [Packaged.render, render_eq_plain] at hs
  obtain ⟨xs, hx, hs⟩ := map_eq_ok.mp hs
  exact ⟨p, scope, xs, hq, hx, hs⟩

end Template.Request

end Scaffold
