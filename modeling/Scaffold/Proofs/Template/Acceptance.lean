import Scaffold.Proofs.Checks
import Scaffold.Proofs.Column.Grammar
import Scaffold.Proofs.Name.Head
import Scaffold.Proofs.Template.Fills
import Scaffold.Sql.Migration
import Scaffold.Template.Library

/-! # Accepted inputs

Each generator makes its checks in order and fails with what the first failing check says. Behind
them it only fills in a template, and that does not fail: the checks settle all that the template
asks for.
-/

namespace Scaffold

open Name (isIdentifier isTypeChar checkIdentifier checkTypeName)
open Template (IsFree Scope Shapes)

/-! ### Rendering -/

theorem Packaged.exists_render {p : Packaged} {free : Char → Bool} {shapes : Shapes}
    {scope : Scope} (hp : Name.Closed free) (hb : p.body.isShaped free shapes = true)
    (hs : shapes.Relates free scope scope) : ∃ s, p.render scope = .ok s := by
  obtain ⟨s, -, h, -⟩ := Template.render_relates p.key hp hs p.body hb
  exact ⟨s, h⟩

theorem Provider.isShaped_anyState (p : Pattern) : p.template.body.isShaped isTypeChar
    [("name", .leaf .free), ("state", .leaf .alike), ("has_state", .leaf .agreed)] = true := by
  cases p <;> decide +kernel

theorem Packaged.exists_render_namePair {p : Packaged} {a b : String} {v w : Value}
    (hb : p.body.isShaped isTypeChar (Template.namePair a b) = true) (hv : IsFree isTypeChar v)
    (hw : IsFree isTypeChar w) : ∃ s, p.render [(a, v), (b, w)] = .ok s :=
  exists_render Name.closed_isTypeChar hb
    (.cons (.of_free hv hv) (.cons (.of_free hw hw) Shapes.relates_nil))

namespace Template.Request

variable {q : Request} {p : Packaged} {scope : Scope}

theorem Fills.exists_render (h : q.Fills p scope) : ∃ s, p.render scope = .ok s := by
  have hname {name : String} (h : isIdentifier name.toList = true) :
      IsFree isTypeChar (.text name) := .of_isIdentifier Name.closed_isTypeChar h
  cases h with
  | provider p hn =>
    exact Packaged.exists_render Name.closed_isTypeChar (Provider.isShaped_anyState p)
      (.cons (.of_free (hname hn) (hname hn)) (.cons (.leaf (.alike rfl))
        (.cons (.leaf (.agreed _)) Shapes.relates_nil)))
  | accessor hn =>
    exact Packaged.exists_render_namePair Drift.isShaped_accessor (hname hn) (hname hn)
  | migration hn =>
    exact Packaged.exists_render_namePair Drift.isShaped_migration (hname hn)
      (Drift.isFree_stamp Name.closed_isTypeChar _)
  | repository hnames =>
    obtain ⟨hr, he⟩ := Repository.Names.isFree_of_ofName hnames
    exact Packaged.exists_render_namePair Repository.isShaped hr he
  | sync k ht hu => exact Packaged.exists_render_namePair (Sync.isShaped k) (hname ht) (hname hu)
  | policies p ht hc => exact Packaged.exists_render_namePair (Sql.isShaped p) (hname ht) (hname hc)
  | model hn hfs =>
    have htyped {f : Field} := Field.typed_of_parse hfs (f := f)
    exact Packaged.exists_render Name.closed_isTypeChar Model.isShaped
      (Model.relates_scope (hname hn) (hname hn) (fun _ => htyped) (fun _ => htyped) rfl)
  | route hn hpath hps =>
    have hn : IsFree Route.isFreeChar _ := .of_isIdentifier Route.closed_isFreeChar hn
    have hpath := Route.isFree_path hpath
    have htyped {p : Route.Param} := Route.typed_of_params hps (p := p)
    exact Packaged.exists_render Route.closed_isFreeChar Route.isShaped
      (Route.relates_scope hn hn hpath hpath (fun _ => htyped) (fun _ => htyped)
        (List.forall₂_same.mpr fun _ _ => rfl))

end Template.Request

/-! ### The checks of the generators -/

def readsNone {α : Type} (x : Except Failure (List α)) : Bool := x.toOption.any List.isEmpty

/-- The checks of columns: there is a line of them, it can be read, and they can be written. -/
def Column.checks (missing : Missing) (write : List Column → Except Failure String)
    (columns : Option String) : List (Except Failure Unit) :=
  let line := columns.getD ""
  [require (line ≠ "") (.missing missing), ending (Column.parse line),
    ending (Column.parse line >>= write)]

def Provider.checks (pattern name : String) (state : Option String) :
    List (Except Failure Unit) :=
  [requireWord "pattern" "patterns" ["notifier", "async-notifier", "future", "stream", "family"]
      pattern,
    checkIdentifier name "provider name"] ++
  state.toList.map (checkTypeName · "state type")

def Drift.checks (kind name : String) (columns : Option String) : List (Except Failure Unit) :=
  requireWord "type" "types" ["table", "dao", "migration"] kind ::
    if kind = "table" then Column.checks .tableColumns (tableClass name) columns
    else if kind = "dao" then [checkIdentifier name "DAO name"]
    else [checkIdentifier name "migration name"]

def Model.checks (name : String) (fields : Option String) : List (Except Failure Unit) :=
  let line := fields.getD ""
  [checkIdentifier name "model name", ending (Field.parse line),
    require (readsNone (Field.parse line) = false) (.missing .fields)]

def Sync.checks (kind table : String) (userColumn : Option String) : List (Except Failure Unit) :=
  [requireWord "type" "types" ["rules", "schema"] kind, checkIdentifier table "table name",
    checkIdentifier (userColumn.getD "user_id") "user column"]

/-- A repository without an entity of its own needs a name besides its suffix. -/
def Repository.checks (name : String) (entity : Option String) : List (Except Failure Unit) :=
  [checkIdentifier name "repository name",
    match entity with
    | some e => checkIdentifier e "entity name"
    | none => require (name.toLower ≠ "repository") (.illFormed "" "entity name" .identifier)]

def Route.pathOf (name : String) (given : Option String) : String :=
  if given.getD "" = "" then "/" ++ Name.kebab name else given.getD ""

/-- The path of a route is checked where it is given, and the parameters in it where none are
listed. -/
def Route.checks (name : String) (given listed : Option String) : List (Except Failure Unit) :=
  let path := given.getD ""
  let line := listed.getD ""
  let own := paramNames (pathOf name given).toList
  [checkIdentifier name "route name",
    require (path = "" ∨ Name.isRoutePath path.toList) (.illFormed path "route path" .routePath),
    ending (Param.parse line),
    if readsNone (Param.parse line) then
      ending (Param.parse (String.ofList (Text.join [','] own)))
    else .ok ()]

def Sql.policyChecks (table policy column : String) : List (Except Failure Unit) :=
  [requireWord "policy type" "types" ["user-owned", "team-owned", "public-read", "admin-only"]
      policy,
    checkIdentifier table "table name", checkIdentifier column "column name"]

inductive Generation
  | filled (q : Template.Request)
  | migration (name : String) (columns : Option String)
  deriving DecidableEq, Repr

namespace Generation

def text : Generation → Except Failure String
  | filled q => q.text
  | migration name columns => Sql.migration name columns

def checks : Generation → List (Except Failure Unit)
  | filled (.provider pattern name state) => Provider.checks pattern name state
  | filled (.storage _ kind name columns) => Drift.checks kind name columns
  | filled (.repository name entity) => Repository.checks name entity
  | filled (.sync kind table userColumn) => Sync.checks kind table userColumn
  | filled (.policies table policy column) => Sql.policyChecks table policy column
  | filled (.model name fields) => Model.checks name fields
  | filled (.route name given listed) => Route.checks name given listed
  | migration name columns => Column.checks .migrationColumns (Sql.createTable name) columns

end Generation

/-! ### Each generator is decided by its checks -/

section

open Template.Request (Fills)

variable {name : String}

theorem Column.decides_checks {missing : Missing} {write f : List Column → Except Failure String}
    {columns : Option String} (hf : ∀ cs, Decides [ending (write cs)] (f cs)) :
    Decides (checks missing write columns)
      (match columns with
      | none | some "" => throw (.complaint (.missing missing))
      | some line => Column.parse line >>= f) := by
  split
  · rfl
  · rfl
  · rename_i line hne
    refine .skip (require_eq_ok.mpr hne) ((decides_ending _).cons fun cs hcs => ?_)
    rw [Option.getD_some] at hcs ⊢
    rw [hcs]
    exact hf cs

theorem Provider.decides_generate (pattern name : String) (state : Option String) :
    Decides (checks pattern name state) (generate pattern name state) := by
  refine (decides_choose rfl).cons fun p _ => (decides_check _).cons fun _ hn => ?_
  have hfills : Fills (.provider p.word name state) _ _ :=
    .provider p (Name.checkIdentifier_eq_ok.mp hn)
  have hrender := hfills.exists_render
  cases state with
  | none => exact decides_nil.mpr hrender
  | some type => exact (decides_check _).cons fun _ _ => decides_nil.mpr hrender

theorem Drift.decides_generate (today : Date) (kind name : String) (columns : Option String) :
    Decides (checks kind name columns) (generate today kind name columns) := by
  refine (decides_choose rfl).cons fun k hk => ?_
  obtain rfl := word_of_choose hk
  cases k with
  | table => exact Column.decides_checks fun cs => decides_ending _
  | accessor =>
    refine (decides_check _).cons fun _ hn => decides_nil.mpr ?_
    have hfills : Fills (.storage today Kind.accessor.word name columns) _ _ :=
      .accessor (Name.checkIdentifier_eq_ok.mp hn)
    exact hfills.exists_render
  | migration =>
    refine (decides_check _).cons fun _ hn => decides_nil.mpr ?_
    have hfills : Fills (.storage today Kind.migration.word name columns) _ _ :=
      .migration (Name.checkIdentifier_eq_ok.mp hn)
    exact hfills.exists_render

theorem Model.decides_generate (name : String) (fields : Option String) :
    Decides (checks name fields) (generate name fields) := by
  refine (decides_check _).cons fun _ hn => (decides_ending _).cons fun fs hfs => ?_
  have hnone : readsNone (Field.parse (fields.getD "")) = fs.isEmpty := by
    rw [hfs]
    rfl
  rw [hnone]
  dsimp only
  split
  · rename_i he
    rw [he]
    rfl
  · rename_i he
    refine .skip (require_eq_ok.mpr (Bool.not_eq_true _ ▸ he)) (decides_nil.mpr ?_)
    exact (Fills.model (Name.checkIdentifier_eq_ok.mp hn) hfs).exists_render

theorem Sync.decides_generate (kind table : String) (userColumn : Option String) :
    Decides (checks kind table userColumn) (generate kind table userColumn) := by
  refine (decides_choose rfl).cons fun k _ => (decides_check _).cons fun _ ht =>
    (decides_check _).cons fun _ hu => decides_nil.mpr ?_
  exact (Fills.sync k (Name.checkIdentifier_eq_ok.mp ht)
    (Name.checkIdentifier_eq_ok.mp hu)).exists_render

theorem Sql.decides_policies (table policy column : String) :
    Decides (policyChecks table policy column) (policies table policy column) := by
  refine (decides_choose rfl).cons fun p _ => (decides_check _).cons fun _ ht =>
    (decides_check _).cons fun _ hc => decides_nil.mpr ?_
  exact (Fills.policies p (Name.checkIdentifier_eq_ok.mp ht)
    (Name.checkIdentifier_eq_ok.mp hc)).exists_render

theorem Sql.decides_migration (name : String) (columns : Option String) :
    Decides (Column.checks .migrationColumns (createTable name) columns)
      (migration name columns) := by
  refine Column.decides_checks fun cs => (decides_ending _).finish fun create _ => ?_
  exact ⟨_, rfl⟩

/-! #### Repositories -/

namespace Repository

theorem dropSuffix_cases {cs : List Char} (h : isIdentifier cs = true) :
    cs.map Char.toLower = "repository".toList ∧ dropSuffix cs = [] ∨
      cs.map Char.toLower ≠ "repository".toList ∧ isIdentifier (dropSuffix cs) = true := by
  have hlower (n : ℕ) : Text.lower (cs.drop n) = (cs.drop n).map Char.toLower :=
    Text.lowerFrom_of_ascii fun c hc =>
      Name.lt_of_isWordChar (Name.isWordChar_of_mem h (List.mem_of_mem_drop hc))
  have hsuffix : Text.lower suffix.toList = "repository".toList := by decide +kernel
  have hten : suffix.length = "repository".toList.length := by decide
  have hlen : (cs.map Char.toLower).length = cs.length := List.length_map _
  unfold dropSuffix
  dsimp only
  rw [hlower, hsuffix]
  split
  · rename_i hs
    by_cases hz : cs.length - suffix.length = 0
    · rw [hz] at hs ⊢
      exact Or.inl ⟨hs, rfl⟩
    · refine Or.inr ⟨fun he => ?_, ?_⟩
      · rw [he] at hlen
        omega
      · have hne : cs.take (cs.length - suffix.length) ≠ [] := by
          simp [hz, Name.ne_nil_of_isIdentifier h]
        rw [← List.take_append_drop (cs.length - suffix.length) cs] at h
        exact Name.isIdentifier_of_append h hne
  · rename_i hs
    refine Or.inr ⟨fun he => hs ?_, h⟩
    have hz : cs.length - suffix.length = 0 := by
      rw [he] at hlen
      omega
    rwa [hz, List.drop_zero]

/-- Without an entity of its own, a repository has one if its name is more than the suffix. -/
theorem checkIdentifier_dropSuffix (h : isIdentifier name.toList = true) :
    checkIdentifier (String.ofList (dropSuffix name.toList)) "entity name" =
      require (name.toLower ≠ "repository") (.illFormed "" "entity name" .identifier) := by
  have hlower : name.toLower = "repository" ↔
      name.toList.map Char.toLower = "repository".toList := by
    have hmap : name.toLower = name.map Char.toLower := rfl
    rw [hmap, ← String.toList_inj, String.toList_map]
  simp only [require, ne_eq, hlower]
  rcases dropSuffix_cases h with ⟨he, hd⟩ | ⟨he, hd⟩
  · rw [if_neg (not_not.mpr he), hd]
    rfl
  · rw [if_pos he]
    exact Name.checkIdentifier_eq_ok.mpr (by rwa [String.toList_ofList])

theorem decides_ofName (name : String) (entity : Option String) :
    Decides (checks name entity) (Names.ofName name entity) := by
  refine (decides_check _).cons fun _ hn => ?_
  cases entity with
  | some e => exact (decides_check _).finish fun _ _ => ⟨_, rfl⟩
  | none =>
    rw [← checkIdentifier_dropSuffix (Name.checkIdentifier_eq_ok.mp hn)]
    exact (decides_check _).finish fun _ _ => ⟨_, rfl⟩

theorem decides_generate (name : String) (entity : Option String) :
    Decides (checks name entity) (generate name entity) :=
  (decides_ofName name entity).finish fun _ hnames => (Fills.repository hnames).exists_render

end Repository

/-! #### Routes -/

namespace Route

theorem isRoutePath_kebab (h : isIdentifier name.toList = true) :
    Name.isRoutePath ("/" ++ Name.kebab name).toList = true := by
  have hkebab : ∀ c ∈ (Name.kebab name).toList, Name.isRouteChar c = true :=
    closed_isRouteChar.apply (f := .kebab) (fun _ => by decide) fun c hc =>
      closed_isRouteChar.word c (Name.isWordChar_of_mem h hc)
  rw [String.toList_append]
  exact Name.matchesB_iff.mpr ⟨'/', (Name.kebab name).toList, rfl, by decide, hkebab⟩

theorem path_eq (name : String) (given : Option String) :
    path name given = do
      Name.checkRoutePath (pathOf name given)
      return pathOf name given := by
  unfold path pathOf
  split
  · rfl
  · rfl
  · rename_i p hp
    rw [Option.getD_some, if_neg hp]

theorem decides_path (given : Option String) (hn : isIdentifier name.toList = true) :
    Decides [require (given.getD "" = "" ∨ Name.isRoutePath (given.getD "").toList)
      (.illFormed (given.getD "") "route path" .routePath)] (path name given) := by
  have hcheck : Name.checkRoutePath (pathOf name given) =
      require (given.getD "" = "" ∨ Name.isRoutePath (given.getD "").toList)
        (.illFormed (given.getD "") "route path" .routePath) := by
    unfold pathOf
    by_cases hp : given.getD "" = ""
    · rw [if_pos hp, require_eq_ok.mpr (Or.inl hp)]
      exact Name.checkRoutePath_eq_ok.mpr (isRoutePath_kebab hn)
    · simp only [hp, false_or]
      rfl
  rw [path_eq, ← hcheck]
  exact (decides_check _).finish fun _ _ => ⟨_, rfl⟩

theorem eq_pathOf {given : Option String} {p : String} (h : path name given = .ok p) :
    p = pathOf name given := by
  rw [path_eq, check_bind_eq_ok] at h
  exact (Except.ok.inj h.2).symm

theorem decides_params (path : String) (listed : Option String) :
    Decides
      [ending (Param.parse (listed.getD "")),
        if readsNone (Param.parse (listed.getD "")) then
          ending (Param.parse (String.ofList (Text.join [','] (paramNames path.toList))))
        else .ok ()]
      (params path listed) := by
  refine (decides_ending _).cons fun own hown => ?_
  have hnone : readsNone (Param.parse (listed.getD "")) = own.isEmpty := by
    rw [hown]
    rfl
  rw [hnone]
  split
  · exact decides_ending _
  · rfl

theorem decides_generate (name : String) (given listed : Option String) :
    Decides (checks name given listed) (generate name given listed) := by
  refine (decides_check _).cons fun _ hn => ?_
  have hn := Name.checkIdentifier_eq_ok.mp hn
  refine (decides_path given hn).cons fun p hp => ?_
  rw [← eq_pathOf hp]
  exact (decides_params p listed).finish fun ps hps => (Fills.route hn hp hps).exists_render

end Route

theorem Generation.decides_text (g : Generation) : Decides g.checks g.text := by
  cases g with
  | filled q =>
    cases q with
    | provider => exact Provider.decides_generate _ _ _
    | storage => exact Drift.decides_generate _ _ _ _
    | repository => exact Repository.decides_generate _ _
    | sync => exact Sync.decides_generate _ _ _
    | policies => exact Sql.decides_policies _ _ _
    | model => exact Model.decides_generate _ _
    | route => exact Route.decides_generate _ _ _
  | migration => exact Sql.decides_migration _ _

end

/-! ### What the checks complain about -/

section

open Failure (OfInput)
open Name (ofInput_checkIdentifier ofInput_checkTypeName)

theorem Column.ofInput_parse (line : String) : FailsOnly OfInput (parse line) := by
  intro f h
  obtain ⟨-, part, -, -, -, hr⟩ := parse_eq_error.mp h
  cases hr with
  | shape => exact .columnShape _
  | blank => exact .columnBlank _
  | modifier _ _ _ _ hm =>
    cases hm with
    | unknown => exact .columnModifier _ _
    | table | column => exact .illFormed _ _ _

theorem Column.ofInput_checkedName (role : String) (style : String → String) (name : String) :
    FailsOnly OfInput (checkedName role style name) :=
  (ofInput_checkIdentifier _ _).bind fun _ _ =>
    (ofInput_checkIdentifier _ _).bind fun _ _ => failsOnly_ok _

theorem Sql.ofInput_createTable (name : String) (columns : List Column) :
    FailsOnly OfInput (createTable name columns) :=
  ((Column.ofInput_checkedName _ _ _).bind fun _ _ =>
    (FailsOnly.mapM fun _ _ => (Column.ofInput_checkedName _ _ _).bind fun _ _ =>
      failsOnly_ok _).bind fun _ _ => failsOnly_ok _).map

theorem Drift.ofInput_tableClass (name : String) (columns : List Column) :
    FailsOnly OfInput (tableClass name columns) :=
  ((Column.ofInput_checkedName _ _ _).bind fun _ _ =>
    (FailsOnly.mapM fun _ _ => (Column.ofInput_checkedName _ _ _).bind fun _ _ =>
      failsOnly_ok _).bind fun _ _ => failsOnly_ok _).map

theorem Field.ofInput_parse (line : String) : FailsOnly OfInput (parse line) := by
  refine (FailsOnly.mapM fun cs _ => ?_).bind fun _ _ => failsOnly_ok _
  rw [ofSegment]
  dsimp only
  split
  · exact failsOnly_ok _
  · exact (ofInput_checkIdentifier _ _).bind fun _ _ =>
      (ofInput_checkTypeName _ _).bind fun _ _ => failsOnly_ok _

theorem Route.Param.ofInput_parse (line : String) : FailsOnly OfInput (Param.parse line) := by
  refine (FailsOnly.mapM fun cs _ => ?_).bind fun _ _ => failsOnly_ok _
  rw [Param.ofSegment]
  dsimp only
  split
  · exact failsOnly_ok _
  · exact (ofInput_checkIdentifier _ _).bind fun _ _ =>
      (ofInput_checkTypeName _ _).bind fun _ _ => failsOnly_ok _

theorem Column.ofInput_checks {missing : Missing} {write : List Column → Except Failure String}
    (columns : Option String) (hw : ∀ cs, FailsOnly OfInput (write cs)) :
    ∀ c ∈ checks missing write columns, FailsOnly OfInput c := by
  simp only [checks, List.forall_mem_cons]
  exact ⟨ofInput_require (.missing _), (ofInput_parse _).ending,
    ((ofInput_parse _).bind fun cs _ => hw cs).ending, by simp⟩

theorem Generation.ofInput_checks (g : Generation) : ∀ c ∈ g.checks, FailsOnly OfInput c := by
  cases g with
  | filled q =>
    cases q with
    | provider pattern name state =>
      simp only [checks, Provider.checks, List.forall_mem_append, List.forall_mem_cons,
        List.forall_mem_map]
      exact ⟨⟨ofInput_requireWord _ _ _ _, ofInput_checkIdentifier _ _, by simp⟩,
        fun _ _ => ofInput_checkTypeName _ _⟩
    | storage today kind name columns =>
      simp only [checks, Drift.checks, List.forall_mem_cons]
      refine ⟨ofInput_requireWord _ _ _ _, ?_⟩
      split
      · exact Column.ofInput_checks _ (Drift.ofInput_tableClass _)
      · split <;> simpa using ofInput_checkIdentifier _ _
    | repository name entity =>
      simp only [checks, Repository.checks, List.forall_mem_cons]
      refine ⟨ofInput_checkIdentifier _ _, ?_, by simp⟩
      cases entity with
      | some e => exact ofInput_checkIdentifier _ _
      | none => exact ofInput_require (.illFormed _ _ _)
    | sync kind table userColumn =>
      simp only [checks, Sync.checks, List.forall_mem_cons]
      exact ⟨ofInput_requireWord _ _ _ _, ofInput_checkIdentifier _ _,
        ofInput_checkIdentifier _ _, by simp⟩
    | policies table policy column =>
      simp only [checks, Sql.policyChecks, List.forall_mem_cons]
      exact ⟨ofInput_requireWord _ _ _ _, ofInput_checkIdentifier _ _,
        ofInput_checkIdentifier _ _, by simp⟩
    | model name fields =>
      simp only [checks, Model.checks, List.forall_mem_cons]
      exact ⟨ofInput_checkIdentifier _ _, (Field.ofInput_parse _).ending,
        ofInput_require (.missing _), by simp⟩
    | route name given listed =>
      simp only [checks, Route.checks, List.forall_mem_cons]
      refine ⟨ofInput_checkIdentifier _ _, ofInput_require (.illFormed _ _ _),
        (Route.Param.ofInput_parse _).ending, ?_, by simp⟩
      split
      · exact (Route.Param.ofInput_parse _).ending
      · exact failsOnly_ok _
  | migration name columns => exact Column.ofInput_checks _ (Sql.ofInput_createTable _)

/-- A generator complains about what was asked and nothing else. -/
theorem Generation.ofInput_text (g : Generation) : FailsOnly OfInput g.text := by
  intro f hf
  have hmem : .error f ∈ g.checks := (g.decides_text.eq_error_iff.mp hf).mem
  exact g.ofInput_checks _ hmem f rfl

end

/-! ### The library -/

namespace Template

theorem find?_of_nodup {α β : Type} [DecidableEq β] {f : α → β} {xs : List α} {a : α}
    (hn : (xs.map f).Nodup) (ha : a ∈ xs) : (xs.find? fun b => f a = f b) = some a := by
  induction xs with
  | nil => cases ha
  | cons b xs ih =>
    rw [List.map_cons, List.nodup_cons] at hn
    rw [List.find?_cons]
    rcases List.mem_cons.mp ha with rfl | ha
    · rw [decide_eq_true rfl]
    · have hne : f a ≠ f b := fun he => hn.1 (he ▸ List.mem_map_of_mem ha)
      rw [decide_eq_false hne]
      exact ih hn.2 ha

def place (p : Packaged) : List (List Char) :=
  [p.category.toList, p.name.toList ++ Packaged.suffix.toList]

theorem pathParts_key {p : Packaged}
    (h : ∀ part ∈ place p, '/' ∉ part ∧ part ≠ [] ∧ part ≠ ['.']) :
    pathParts p.key.toList = place p := by
  have hjoin : p.key.toList = Text.join ['/'] (place p) := by
    simp [Packaged.key, Packaged.keyOf, place, Text.join]
  have hsplit : Text.split '/' (Text.join ['/'] (place p)) = place p :=
    Text.split_join (List.cons_ne_nil _ _) fun part hp => (h part hp).1
  rw [hjoin, pathParts, hsplit, List.filter_eq_self]
  intro part hp
  simpa using (h part hp).2

/-- Every packaged template is found under its key. -/
theorem find?_key : ∀ p ∈ library, find? p.key = some p := by
  have hparts : ∀ p ∈ library, ∀ part ∈ place p,
      '/' ∉ part ∧ part ≠ [] ∧ part ≠ ['.'] ∧ part ≠ parent := by decide +kernel
  have hplaces : (library.map place).Nodup := by decide +kernel
  intro p hp
  have hkey : pathParts p.key.toList = place p := by
    apply pathParts_key
    intro part hpart
    obtain ⟨hslash, hne, hdot, -⟩ := hparts p hp part hpart
    exact ⟨hslash, hne, hdot⟩
  have hparent : (place p).contains parent = false := by
    rw [← Bool.not_eq_true, List.contains_iff_mem]
    intro hm
    exact (hparts p hp _ hm).2.2.2 rfl
  unfold find?
  dsimp only
  rw [hkey, hparent]
  exact find?_of_nodup hplaces hp

variable {p : Packaged} {scope : Scope}

theorem Renderer.render_eq (hp : p ∈ library) (hs : scope.lookup reserved = none) :
    (({} : Renderer).render p.category p.name scope).1 = p.render scope := by
  have hload : (({} : Renderer).load p.key).1 = .ok p := by
    unfold load
    rw [find?_key p hp]
    rfl
  change ((({} : Renderer).load p.key).1.bind fun p' =>
    if (scope.lookup reserved).isSome then .error (Fault.reservedVariable reserved)
    else p'.body.render p.key scope) = _
  rw [hload, hs]
  rfl

theorem Request.Fills.packaged {q : Request} (h : q.Fills p scope) :
    p ∈ library ∧ scope.lookup Renderer.reserved = none := by
  cases h with
  | provider p => exact ⟨by cases p <;> simp [library, Provider.Pattern.template], rfl⟩
  | accessor | migration | repository | model | route => exact ⟨by simp [library], rfl⟩
  | sync k => exact ⟨by cases k <;> simp [library, Sync.Kind.template], rfl⟩
  | policies p => exact ⟨by cases p <;> simp [library, Sql.Policy.template], rfl⟩

end Template

theorem Sql.exists_fill {name s : String} {columns : Option String}
    (h : migration name columns = .ok s) :
    ∃ scope : Scope, scope.lookup Template.Renderer.reserved = none ∧
      migrationTemplate.render scope = .ok s := by
  rw [migration.eq_def] at h
  split at h
  · cases h
  · cases h
  · obtain ⟨cs, -, h⟩ := bind_eq_ok.mp h
    obtain ⟨create, -, h⟩ := bind_eq_ok.mp h
    exact ⟨_, rfl, h⟩

namespace Generation

/-- Whether the class of a table is asked for, which is written without a template. -/
def IsTable : Generation → Prop
  | filled q => q.IsTable
  | migration .. => False

open Template (library Renderer)

theorem exists_rendered {g : Generation} {s : String} (h : g.text = .ok s) (ht : ¬ g.IsTable) :
    ∃ p ∈ library, ∃ scope, (({} : Renderer).render p.category p.name scope).1 = .ok s := by
  cases g with
  | filled q =>
    obtain ⟨p, scope, hfills, hs⟩ := Template.Request.exists_fills h ht
    obtain ⟨hp, hscope⟩ := hfills.packaged
    exact ⟨p, hp, scope, by rw [Template.Renderer.render_eq hp hscope, hs]⟩
  | migration name columns =>
    obtain ⟨scope, hscope, hs⟩ := Sql.exists_fill h
    have hp : Sql.migrationTemplate ∈ library := by simp [library]
    exact ⟨_, hp, scope, by rw [Template.Renderer.render_eq hp hscope, hs]⟩

/-- A generator yields a text if its checks pass, and else it fails as the first one that does not.
All that it complains about is what was asked: the templates are found and can be filled in. -/
theorem text_decided (g : Generation) :
    ((∃ s, g.text = .ok s) ↔ ∀ c ∈ g.checks, c = .ok ()) ∧
    (∀ f, g.text = .error f ↔ FailsFirst id g.checks f) ∧
    (∀ f, g.text = .error f → f.OfInput) ∧
    ∀ s, g.text = .ok s → ¬ g.IsTable →
      ∃ p ∈ library, ∃ scope, (({} : Renderer).render p.category p.name scope).1 = .ok s := by
  refine ⟨g.decides_text.exists_ok_iff, ?_, g.ofInput_text, ?_⟩
  · intro f
    exact g.decides_text.eq_error_iff
  · intro s
    exact exists_rendered

end Generation

end Scaffold
