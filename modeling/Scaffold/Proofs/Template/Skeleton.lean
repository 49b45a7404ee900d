import Scaffold.Drift.Access
import Scaffold.Proofs.Calendar
import Scaffold.Proofs.Template.Flow
import Scaffold.Provider
import Scaffold.Repository
import Scaffold.Sql.Policy
import Scaffold.Sync

/-! # The skeletons of generated texts

What is asked of a generator shows in its text in the characters of names and types only. All other
characters, those that give a text its structure, come from the template.
-/

namespace Scaffold

open Name (isIdentifier isTypeName isTypeChar)
open Template (IsFree Shapes)

variable {free : Char → Bool} {name name' type s t : String}

/-! ### Checked names -/

namespace Template

theorem IsFree.of_isIdentifier (hp : Name.Closed free) (h : isIdentifier name.toList = true) :
    IsFree free (.text name) :=
  iff_forall.mpr fun c hc => hp.word c (Name.isWordChar_of_mem h hc)

theorem IsFree.of_checkIdentifier {role : String} (h : Name.checkIdentifier name role = .ok ()) :
    IsFree isTypeChar (.text name) :=
  of_isIdentifier Name.closed_isTypeChar (Name.checkIdentifier_eq_ok.mp h)

theorem IsFree.of_isTypeName (hp : ∀ c, isTypeChar c = true → free c = true)
    (h : isTypeName type.toList = true) : IsFree free (.text type) :=
  iff_forall.mpr fun c hc => hp c (Name.isTypeChar_of_mem h hc)

theorem Shape.Relates.of_free {v w : Value} (hv : IsFree free v) (hw : IsFree free w) :
    Shape.Relates free (.leaf .free) v w := .leaf (.free hv hw)

end Template

theorem Packaged.skeleton_render {p : Packaged} {shapes : Shapes} {scope scope' : Template.Scope}
    (hp : Name.Closed free) (hb : p.body.isShaped free shapes = true)
    (hs : shapes.Relates free scope scope') (h : p.render scope = .ok s)
    (h' : p.render scope' = .ok t) : skeleton free s = skeleton free t := by
  obtain ⟨a, b, ha, hb, hab⟩ := Template.render_relates p.key hp hs p.body hb
  cases h.symm.trans ha
  cases h'.symm.trans hb
  exact hab

def Template.namePair (a b : String) : Shapes := [(a, .leaf .free), (b, .leaf .free)]

theorem Packaged.skeleton_render_namePair {p : Packaged} {a b : String} {v v' w w' : Value}
    (hb : p.body.isShaped isTypeChar (Template.namePair a b) = true)
    (hv : IsFree isTypeChar v) (hw : IsFree isTypeChar w)
    (hv' : IsFree isTypeChar v') (hw' : IsFree isTypeChar w')
    (h : p.render [(a, v), (b, w)] = .ok s) (h' : p.render [(a, v'), (b, w')] = .ok t) :
    skeleton isTypeChar s = skeleton isTypeChar t :=
  skeleton_render Name.closed_isTypeChar hb
    (.cons (.of_free hv hv') (.cons (.of_free hw hw') Shapes.relates_nil)) h h'

theorem choose_unique {α : Type} {what plural value : String} {word : α → String} {all : List α}
    {a b : α} (h : choose what plural word all value = .ok a)
    (h' : choose what plural word all value = .ok b) : a = b := by
  cases h.symm.trans h'
  rfl

/-! ### Generators of one shape -/

namespace Provider

def shapes : Shapes :=
  [("name", .leaf .free), ("state", .leaf .free), ("has_state", .leaf .agreed)]

theorem isShaped (p : Pattern) : p.template.body.isShaped isTypeChar shapes = true := by
  cases p <;> decide +kernel

theorem exists_of_generate {pattern : String} {state : Option String}
    (h : generate pattern name state = .ok s) :
    ∃ p, choose "pattern" "patterns" Pattern.word Pattern.all pattern = .ok p ∧
      IsFree isTypeChar (.text name) ∧ IsFree isTypeChar (.text (state.getD defaultState)) ∧
      p.template.render [("name", .text name), ("state", .text (state.getD defaultState)),
        ("has_state", .bool state.isSome)] = .ok s := by
  obtain ⟨p, hp, h⟩ := bind_eq_ok.mp h
  obtain ⟨hn, h⟩ := check_bind_eq_ok.mp h
  refine ⟨p, hp, .of_checkIdentifier hn, ?_⟩
  cases state with
  | none => exact ⟨.of_isTypeName (fun _ h => h) (by decide), h⟩
  | some type =>
    obtain ⟨ht, h⟩ := check_bind_eq_ok.mp h
    exact ⟨.of_isTypeName (fun _ h => h) (Name.checkTypeName_eq_ok.mp ht), h⟩

theorem skeleton_generate {pattern : String} {state state' : Option String}
    (hs : state.isSome = state'.isSome) (h : generate pattern name state = .ok s)
    (h' : generate pattern name' state' = .ok t) :
    skeleton isTypeChar s = skeleton isTypeChar t := by
  obtain ⟨p, hp, hn, ht, h⟩ := exists_of_generate h
  obtain ⟨p', hp', hn', ht', h'⟩ := exists_of_generate h'
  obtain rfl := choose_unique hp hp'
  refine Packaged.skeleton_render Name.closed_isTypeChar (isShaped p) ?_ h h'
  rw [hs]
  exact .cons (.of_free hn hn') (.cons (.of_free ht ht')
    (.cons (.leaf (.agreed _)) Shapes.relates_nil))

end Provider

namespace Sync

theorem isShaped (k : Kind) :
    k.template.body.isShaped isTypeChar (Template.namePair "table" "user_column") = true := by
  cases k <;> decide +kernel

theorem exists_of_generate {kind table : String} {column : Option String}
    (h : generate kind table column = .ok s) :
    ∃ k, choose "type" "types" Kind.word Kind.all kind = .ok k ∧
      IsFree isTypeChar (.text table) ∧
      IsFree isTypeChar (.text (column.getD defaultUserColumn)) ∧
      k.template.render [("table", .text table),
        ("user_column", .text (column.getD defaultUserColumn))] = .ok s := by
  obtain ⟨k, hk, h⟩ := bind_eq_ok.mp h
  obtain ⟨ht, h⟩ := check_bind_eq_ok.mp h
  obtain ⟨hc, h⟩ := check_bind_eq_ok.mp h
  exact ⟨k, hk, .of_checkIdentifier ht, .of_checkIdentifier hc, h⟩

theorem skeleton_generate {kind table table' : String} {column column' : Option String}
    (h : generate kind table column = .ok s) (h' : generate kind table' column' = .ok t) :
    skeleton isTypeChar s = skeleton isTypeChar t := by
  obtain ⟨k, hk, ht, hc, h⟩ := exists_of_generate h
  obtain ⟨k', hk', ht', hc', h'⟩ := exists_of_generate h'
  obtain rfl := choose_unique hk hk'
  exact Packaged.skeleton_render_namePair (isShaped k) ht hc ht' hc' h h'

end Sync

namespace Sql

theorem isShaped (p : Policy) :
    p.template.body.isShaped isTypeChar (Template.namePair "table" "column") = true := by
  cases p <;> decide +kernel

theorem exists_of_policies {table policy column : String}
    (h : policies table policy column = .ok s) :
    ∃ p, choose "policy type" "types" Policy.word Policy.all policy = .ok p ∧
      IsFree isTypeChar (.text table) ∧ IsFree isTypeChar (.text column) ∧
      p.template.render [("table", .text table), ("column", .text column)] = .ok s := by
  obtain ⟨p, hp, h⟩ := bind_eq_ok.mp h
  obtain ⟨ht, h⟩ := check_bind_eq_ok.mp h
  obtain ⟨hc, h⟩ := check_bind_eq_ok.mp h
  exact ⟨p, hp, .of_checkIdentifier ht, .of_checkIdentifier hc, h⟩

theorem skeleton_policies {table table' policy column column' : String}
    (h : policies table policy column = .ok s) (h' : policies table' policy column' = .ok t) :
    skeleton isTypeChar s = skeleton isTypeChar t := by
  obtain ⟨p, hp, ht, hc, h⟩ := exists_of_policies h
  obtain ⟨p', hp', ht', hc', h'⟩ := exists_of_policies h'
  obtain rfl := choose_unique hp hp'
  exact Packaged.skeleton_render_namePair (isShaped p) ht hc ht' hc' h h'

end Sql

namespace Repository

theorem isShaped : template.body.isShaped isTypeChar
    (Template.namePair "repository_name" "entity_name") = true := by
  decide +kernel

theorem Names.isFree_of_ofName {entity : Option String} {names : Names}
    (h : ofName name entity = .ok names) :
    IsFree isTypeChar (.text names.repository) ∧ IsFree isTypeChar (.text names.entity) := by
  obtain ⟨hn, h⟩ := check_bind_eq_ok.mp h
  obtain ⟨he, h⟩ := check_bind_eq_ok.mp h
  obtain rfl := Except.ok.inj h
  have hpascal {v : String} {role : String} (hv : Name.checkIdentifier v role = .ok ()) :
      IsFree isTypeChar (.text (Name.pascal v)) :=
    (IsFree.of_checkIdentifier hv).apply (f := .pascal) Name.closed_isTypeChar (by simp)
  refine ⟨?_, hpascal he⟩
  dsimp only
  split
  · exact hpascal hn
  · exact (hpascal hn).append (.text (by decide))

theorem exists_of_generate {entity : Option String} (h : generate name entity = .ok s) :
    ∃ r e, IsFree isTypeChar (.text r) ∧ IsFree isTypeChar (.text e) ∧
      template.render [("repository_name", .text r), ("entity_name", .text e)] = .ok s := by
  obtain ⟨names, hnames, h⟩ := bind_eq_ok.mp h
  obtain ⟨hr, he⟩ := Names.isFree_of_ofName hnames
  exact ⟨_, _, hr, he, h⟩

theorem skeleton_generate {entity entity' : Option String} (h : generate name entity = .ok s)
    (h' : generate name' entity' = .ok t) : skeleton isTypeChar s = skeleton isTypeChar t := by
  obtain ⟨r, e, hr, he, h⟩ := exists_of_generate h
  obtain ⟨r', e', hr', he', h'⟩ := exists_of_generate h'
  exact Packaged.skeleton_render_namePair isShaped hr he hr' he' h h'

end Repository

namespace Drift

theorem isFree_stamp (hp : Name.Closed free) (d : Date) : IsFree free (.text d.stamp) := by
  refine IsFree.iff_forall.mpr fun c hc => ?_
  exact hp.word c (Name.isWordChar_of_isDigit (Date.isDigit_of_mem_stamp hc))

theorem isShaped_accessor :
    accessor.body.isShaped isTypeChar (Template.namePair "name" "table_name") = true := by
  decide +kernel

theorem isShaped_migration :
    migration.body.isShaped isTypeChar (Template.namePair "name" "date") = true := by
  decide +kernel

theorem exists_of_generate_accessor {today : Date} {columns : Option String}
    (h : generate today Kind.accessor.word name columns = .ok s) :
    IsFree isTypeChar (.text name) ∧
      accessor.render [("name", .text name), ("table_name", .text name)] = .ok s := by
  obtain ⟨hn, h⟩ := check_bind_eq_ok.mp h
  exact ⟨.of_checkIdentifier hn, h⟩

theorem exists_of_generate_migration {today : Date} {columns : Option String}
    (h : generate today Kind.migration.word name columns = .ok s) :
    IsFree isTypeChar (.text name) ∧
      migration.render [("name", .text name), ("date", .text today.stamp)] = .ok s := by
  obtain ⟨hn, h⟩ := check_bind_eq_ok.mp h
  exact ⟨.of_checkIdentifier hn, h⟩

theorem skeleton_generate {kind : Kind} (hk : kind ≠ .table) {today today' : Date}
    {columns columns' : Option String} (h : generate today kind.word name columns = .ok s)
    (h' : generate today' kind.word name' columns' = .ok t) :
    skeleton isTypeChar s = skeleton isTypeChar t := by
  cases kind with
  | table => exact absurd rfl hk
  | accessor =>
    obtain ⟨hn, h⟩ := exists_of_generate_accessor h
    obtain ⟨hn', h'⟩ := exists_of_generate_accessor h'
    exact Packaged.skeleton_render_namePair isShaped_accessor hn hn hn' hn' h h'
  | migration =>
    obtain ⟨hn, h⟩ := exists_of_generate_migration h
    obtain ⟨hn', h'⟩ := exists_of_generate_migration h'
    have hstamp := isFree_stamp Name.closed_isTypeChar
    exact Packaged.skeleton_render_namePair isShaped_migration hn (hstamp today) hn'
      (hstamp today') h h'

end Drift

end Scaffold
