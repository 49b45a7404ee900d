import Scaffold.Proofs.Name.Head
import Scaffold.Proofs.Template.Fills
import Scaffold.Proofs.Template.Names

/-! # Names that stay identifiers

A generator checks what is asked and then respells it, so a name in its text need not be an
identifier any more. Which names are is read off the template of the text.
-/

namespace Scaffold

open Name (isIdentifier isStatementName isClassName mayLead isWordChar)

open Template

variable {name : String} {xs : List (Symbol Mark)}

theorem isWordChar_respelled (f : Filter) (hf : f ≠ .kebab) (h : isIdentifier name.toList = true) :
    ∀ c ∈ (f.apply name).toList, isWordChar c = true :=
  Name.closed_isWordChar.apply (fun hk => absurd hk hf) fun _ => Name.isWordChar_of_mem h

namespace Provider

def guards : Pattern → List Guard
  | .notifier | .asyncNotifier => [.bind "class_name" (.pascal (.var "name"))]
  | .future | .stream | .family => []

/-- The name of the code of a provider: that of a class or of a function. -/
def codeName : Pattern → Expr
  | .notifier | .asyncNotifier => .var "class_name"
  | .future | .stream | .family => .camel (.var "name")

theorem names?_template (p : Pattern) : p.template.body.script.names? =
    some ([[.value (.snake (.var "name"))], [.value (codeName p)]].map (Line.mk (guards p))) := by
  -- the texts become characters before they are read, as the kernel is slow to take them apart
  cases p <;>
  · dsimp only [Pattern.template, notifier, asyncNotifier, future, stream, family, script]
    repeat rw [String.toList_append]
    repeat rw [String.toList_ofList]
    decide +kernel

theorem namesFit_iff (p : Pattern) {key state : String} {stated : Bool}
    (h : isIdentifier name.toList = true)
    (hx : p.template.body.marked key
      [("name", .text name), ("state", .text state), ("has_state", .bool stated)] = .ok xs) :
    NamesFit xs ↔ isClassName name.toList = true := by
  have hboth : NamesFit xs ↔
      isIdentifier (Name.snake name).toList = true ∧ isClassName name.toList = true := by
    cases p with
    | notifier | asyncNotifier =>
      rw [namesFit_under rfl (names?_template _) hx, ← Name.isIdentifier_pascal h]
      simp only [List.forall_mem_cons, spelling_value, spelling_nil, List.append_nil]
      exact and_congr Iff.rfl (and_iff_left (by simp))
    | future | stream | family =>
      rw [namesFit_under rfl (names?_template _) hx, ← Name.isIdentifier_camel h]
      simp only [List.forall_mem_cons, spelling_value, spelling_nil, List.append_nil]
      exact and_congr Iff.rfl (and_iff_left (by simp))
  rw [hboth, Name.isIdentifier_snake h, and_iff_right_iff_imp]
  exact Name.isStatementName_of_isClassName

end Provider

namespace Drift

def accessorGuards : List Guard :=
  [.bind "class_name" (.pascal (.var "name")),
    .bind "table_class" (.pascal (.var "table_name")),
    .bind "table_getter" (.camel (.var "table_name")),
    .bind "row_class" (.singular (.var "table_class"))]

def accessorNames : List (List (Symbol Expr)) :=
  [[.value (.snake (.var "table_name"))], [.value (.snake (.var "name"))],
    [.value (.var "table_class")], .value (.var "class_name") :: Symbol.ofText "Dao",
    .value (.var "class_name") :: Symbol.ofText "DaoMixin", [.value (.var "row_class")],
    [.value (.var "table_getter")]]

theorem names?_accessor :
    accessor.body.script.names? = some (accessorNames.map (Line.mk accessorGuards)) := by
  dsimp only [accessor, script]
  repeat rw [String.toList_append]
  repeat rw [String.toList_ofList]
  decide +kernel

theorem namesFit_accessor {key : String} (h : isIdentifier name.toList = true)
    (hx : accessor.body.marked key [("name", .text name), ("table_name", .text name)] = .ok xs) :
    NamesFit xs ↔ isClassName name.toList = true := by
  rw [namesFit_under rfl names?_accessor hx]
  simp only [accessorNames, List.forall_mem_cons, spelling_value, spelling_nil, spelling_ofText,
    List.append_nil]
  change isIdentifier (Name.snake name).toList = true ∧
    isIdentifier (Name.snake name).toList = true ∧
    isIdentifier (Name.pascal name).toList = true ∧
    isIdentifier ((Name.pascal name).toList ++ "Dao".toList) = true ∧
    isIdentifier ((Name.pascal name).toList ++ "DaoMixin".toList) = true ∧
    isIdentifier (Name.singularize (Name.pascal name)).toList = true ∧
    isIdentifier (Name.camel name).toList = true ∧ _ ↔ _
  rw [Name.isIdentifier_snake h, Name.isIdentifier_pascal h, Name.isIdentifier_camel h,
    Name.isIdentifier_pascal_append h (by decide), Name.isIdentifier_pascal_append h (by decide)]
  constructor
  · rintro ⟨-, -, hc, -⟩
    exact hc
  · intro hc
    have hs := Name.isStatementName_of_isClassName hc
    have hlead := Name.mayLead_of_isClassName hc
    refine ⟨hs, hs, hc, hlead, hlead, ?_, hc, by simp⟩
    rw [Name.singularize, String.toList_ofList]
    apply Name.isIdentifier_singularChars
    rw [Name.isIdentifier_pascal h, hc]

theorem names?_migration : migration.body.script.names? =
    some ([Symbol.ofText "migrate" ++ [.value (.var "step_name"), .value (.var "date")]].map
      (Line.mk [.bind "step_name" (.pascal (.var "name"))])) := by
  dsimp only [migration, script]
  repeat rw [String.toList_append]
  repeat rw [String.toList_ofList]
  decide +kernel

theorem namesFit_migration {key : String} {day : Date} (h : isIdentifier name.toList = true)
    (hx : migration.body.marked key [("name", .text name), ("date", .text day.stamp)] = .ok xs) :
    NamesFit xs := by
  rw [namesFit_under rfl names?_migration hx]
  simp only [List.forall_mem_singleton, spelling_append, spelling_ofText, spelling_value,
    spelling_nil, List.append_nil]
  apply Name.isIdentifier_append_left (by decide)
  refine List.forall_mem_append.mpr ⟨isWordChar_respelled .pascal (by simp) h, ?_⟩
  exact IsFree.iff_forall.mp (isFree_stamp Name.closed_isWordChar day)

end Drift

namespace Repository

def guards : List Guard :=
  [.bind "entity_var" (.camel (.var "entity_name")),
    .bind "entity_file" (.snake (.var "entity_name"))]

def codeNames : List (List (Symbol Expr)) :=
  [[.value (.var "entity_file")], [.value (.var "repository_name")], [.value (.var "entity_name")],
    [.value (.var "entity_var")], Symbol.ofText "Supabase" ++ [.value (.var "repository_name")]]

theorem names?_template : template.body.script.names? = some (codeNames.map (Line.mk guards)) := by
  dsimp only [template, script]
  repeat rw [String.toList_append]
  repeat rw [String.toList_ofList]
  decide +kernel

def entityName (name : String) (entity : Option String) : String :=
  entity.getD (String.ofList (dropSuffix name.toList))

def suffixed (name : String) : String :=
  if (Text.before? suffix.toList name.toList).isSome then name else name ++ suffix

theorem Names.exists_of_ofName {entity : Option String} {ns : Names}
    (h : Names.ofName name entity = .ok ns) :
    isIdentifier name.toList = true ∧ isIdentifier (entityName name entity).toList = true ∧
      ns = ⟨suffixed (Name.pascal name), Name.pascal (entityName name entity)⟩ := by
  obtain ⟨hn, h⟩ := check_bind_eq_ok.mp h
  obtain ⟨he, h⟩ := check_bind_eq_ok.mp h
  exact ⟨Name.checkIdentifier_eq_ok.mp hn, Name.checkIdentifier_eq_ok.mp he,
    (Except.ok.inj h).symm⟩

theorem isIdentifier_suffixed (h : isIdentifier name.toList = true) :
    isIdentifier (suffixed (Name.pascal name)).toList = mayLead name.toList := by
  unfold suffixed
  split
  · rename_i hs
    obtain ⟨stem, hs⟩ := Option.isSome_iff_exists.mp hs
    have hne : (Name.pascal name).toList ≠ [] := by
      rw [Text.before?_eq_some.mp hs]
      simp [suffix]
    rw [Name.isIdentifier_pascal h, Name.mayLead_of_pascal_ne_nil h hne]
  · rw [String.toList_append, Name.isIdentifier_pascal_append h (by decide)]

theorem namesFit_iff {entity : Option String} {ns : Names} (hn : Names.ofName name entity = .ok ns)
    {key : String} (hx : template.body.marked key
      [("repository_name", .text ns.repository), ("entity_name", .text ns.entity)] = .ok xs) :
    NamesFit xs ↔
      isClassName (entityName name entity).toList = true ∧ mayLead name.toList = true := by
  obtain ⟨hname, he, hns⟩ := Names.exists_of_ofName hn
  obtain ⟨r, e⟩ := ns
  obtain ⟨hr, hp⟩ := Names.mk.inj hns
  rw [namesFit_under rfl names?_template hx]
  simp only [codeNames, List.forall_mem_cons, spelling_append, spelling_ofText, spelling_value,
    spelling_nil, List.append_nil]
  change isIdentifier (Name.snake e).toList = true ∧ isIdentifier r.toList = true ∧
    isIdentifier e.toList = true ∧ isIdentifier (Name.camel e).toList = true ∧
    isIdentifier ("Supabase".toList ++ r.toList) = true ∧ _ ↔ _
  have hlead : isIdentifier r.toList = mayLead name.toList := by
    rw [hr, isIdentifier_suffixed hname]
  have hclass : isIdentifier e.toList = isClassName (entityName name entity).toList := by
    rw [hp, Name.isIdentifier_pascal he]
  rw [← hlead, ← hclass]
  constructor
  · rintro ⟨-, hr, he, -⟩
    exact ⟨he, hr⟩
  · rintro ⟨hent, hrep⟩
    have hbare : isClassName e.toList = true := by
      rw [hp, Name.isClassName_pascal he, ← hclass, hent]
    refine ⟨?_, hrep, hent, ?_, ?_, by simp⟩
    · rw [Name.isIdentifier_snake hent, Name.isStatementName_of_isClassName hbare]
    · rw [Name.isIdentifier_camel hent, hbare]
    · exact Name.isIdentifier_append_left (by decide) fun _ => Name.isWordChar_of_mem hrep

end Repository

namespace Sync

def codeNames : Kind → List (List (Symbol Expr))
  | .rules => [Symbol.ofText "user_" ++ [.value (.snake (.var "table"))], [.value (.var "table")],
      [.value (.var "user_column")]]
  | .schema => [.value (.camel (.var "table")) :: Symbol.ofText "Table"]

theorem names?_template (k : Kind) :
    k.template.body.script.names? = some ((codeNames k).map (Line.mk [])) := by
  cases k <;>
  · dsimp only [Kind.template, rules, schema, script]
    repeat rw [String.toList_append]
    repeat rw [String.toList_ofList]
    decide +kernel

theorem namesFit_rules {key table column : String} (ht : isIdentifier table.toList = true)
    (hc : isIdentifier column.toList = true) (hx : rules.body.marked key
      [("table", .text table), ("user_column", .text column)] = .ok xs) : NamesFit xs := by
  rw [namesFit_under rfl (names?_template .rules) hx]
  simp only [codeNames, List.forall_mem_cons, spelling_append, spelling_ofText, spelling_value,
    spelling_nil, List.append_nil]
  refine ⟨?_, ht, hc, by simp⟩
  exact Name.isIdentifier_append_left (by decide) (isWordChar_respelled .snake (by simp) ht)

theorem namesFit_schema {key table column : String} (ht : isIdentifier table.toList = true)
    (hx : schema.body.marked key
      [("table", .text table), ("user_column", .text column)] = .ok xs) :
    NamesFit xs ↔ mayLead table.toList = true := by
  have htable : isIdentifier "Table".toList = true := by decide
  rw [namesFit_under rfl (names?_template .schema) hx, ← Name.isIdentifier_camel_append ht htable]
  simp only [codeNames, List.forall_mem_singleton, spelling_value, spelling_ofText]
  rfl

end Sync

namespace Sql

def guards : Policy → List Guard
  | .teamOwned =>
    [.bind "members" (.literal "SELECT team_id FROM team_members WHERE user_id = auth.uid()")]
  | .adminOnly => [.bind "admin_check" (.literal "auth.uid() IN (SELECT user_id FROM admins)")]
  | .userOwned | .publicRead => []

def policyNames : Policy → List (List (Symbol Expr))
  | .adminOnly => [[.value (.var "table")]]
  | .userOwned | .teamOwned | .publicRead => [[.value (.var "table")], [.value (.var "column")]]

theorem names?_template (p : Policy) :
    p.template.body.script.names? = some ((policyNames p).map (Line.mk (guards p))) := by
  cases p <;>
  · dsimp only [Policy.template, userOwned, teamOwned, publicRead, adminOnly, script]
    repeat rw [String.toList_append]
    repeat rw [String.toList_ofList]
    decide +kernel

theorem namesFit_policies (p : Policy) {key table column : String}
    (ht : isIdentifier table.toList = true) (hc : isIdentifier column.toList = true)
    (hx : p.template.body.marked key [("table", .text table), ("column", .text column)] =
      .ok xs) : NamesFit xs := by
  cases p with
  | adminOnly =>
    rw [namesFit_under rfl (names?_template _) hx]
    simp only [policyNames, List.forall_mem_singleton, spelling_value, spelling_nil,
      List.append_nil]
    exact ht
  | userOwned | teamOwned | publicRead =>
    rw [namesFit_under rfl (names?_template _) hx]
    simp only [policyNames, List.forall_mem_cons, spelling_value, spelling_nil, List.append_nil]
    exact ⟨ht, hc, by simp⟩

end Sql

namespace Model

def guards : List Guard :=
  [.bind "class_name" (.pascal (.var "name")), .bind "file_name" (.snake (.var "name"))]

def codeNames : List Line :=
  [⟨guards, [.value (.var "file_name")]⟩, ⟨guards, [.value (.var "class_name")]⟩,
    ⟨guards ++ [.each "field" (.var "fields")], [.value (.member (.var "field") "name")]⟩,
    ⟨guards, [.char '_', .value (.var "class_name")]⟩,
    ⟨guards, .value (.var "class_name") :: Symbol.ofText "FromJson"⟩]

theorem names?_template : template.body.script.names? = some codeNames := by
  dsimp only [template, script]
  repeat rw [String.toList_ofList]
  decide +kernel

theorem namesFit_iff {fs : List Field} {key : String} (h : isIdentifier name.toList = true)
    (hf : ∀ f ∈ fs, isIdentifier f.name.toList = true) (hx : template.body.marked key
      [("name", .text name), ("fields", .list (fs.map Field.value))] = .ok xs) :
    NamesFit xs ↔ isClassName name.toList = true := by
  let scope : Scope := [("file_name", .text (Name.snake name)),
    ("class_name", .text (Name.pascal name)), ("name", .text name),
    ("fields", .list (fs.map Field.value))]
  have hs : reached key guards [("name", .text name), ("fields", .list (fs.map Field.value))] =
      [scope] := rfl
  have hfields : (Expr.var "fields").eval key scope = .ok (.list (fs.map Field.value)) := rfl
  rw [Template.namesFit_iff names?_template hx]
  simp only [codeNames, List.forall_mem_cons, Line.fits_iff hs, Line.fits_each_iff hs hfields,
    spelling_value, spelling_char, spelling_ofText, spelling_nil, List.append_nil]
  change isIdentifier (Name.snake name).toList = true ∧
    isIdentifier (Name.pascal name).toList = true ∧
    (∀ f ∈ fs, isIdentifier f.name.toList = true) ∧
    isIdentifier ('_' :: (Name.pascal name).toList) = true ∧
    isIdentifier ((Name.pascal name).toList ++ "FromJson".toList) = true ∧ _ ↔ _
  rw [Name.isIdentifier_snake h, Name.isIdentifier_pascal h,
    Name.isIdentifier_pascal_append h (by decide)]
  constructor
  · rintro ⟨-, hc, -⟩
    exact hc
  · intro hc
    have hp : isIdentifier (Name.pascal name).toList = true := by
      rw [Name.isIdentifier_pascal h, hc]
    exact ⟨Name.isStatementName_of_isClassName hc, hc, hf, Name.isIdentifier_underscore hp,
      Name.mayLead_of_isClassName hc, by simp⟩

end Model

namespace Route

def codeNames : List Line :=
  [⟨[], [.value (.snake (.var "name"))]⟩,
    ⟨[], .value (.camel (.var "name")) :: Symbol.ofText "Route"⟩,
    ⟨[.each "param" (.var "params")], [.value (.member (.var "param") "name")]⟩,
    ⟨[.branch (.var "params") true], [.value (.var "screen_name")]⟩,
    ⟨[.branch (.var "params") true, .each "param" (.var "params")],
      [.value (.member (.var "param") "name")]⟩,
    ⟨[.branch (.var "params") false], [.value (.var "screen_name")]⟩]

theorem names?_template : template.body.script.names? = some codeNames := by
  dsimp only [template, script]
  repeat rw [String.toList_ofList]
  decide +kernel

theorem namesFit_iff {ps : List Param} {key path kebab : String}
    (h : isIdentifier name.toList = true) (hp : ∀ p ∈ ps, isIdentifier p.name.toList = true)
    (hx : template.body.marked key
      [("name", .text name), ("route_name", .text kebab), ("path", .text path),
        ("params", .list (ps.map Param.value)),
        ("screen_name", .text (Name.pascal name ++ "Screen"))] = .ok xs) :
    NamesFit xs ↔ isStatementName name.toList = true ∧ mayLead name.toList = true := by
  let scope : Scope := [("name", .text name), ("route_name", .text kebab), ("path", .text path),
    ("params", .list (ps.map Param.value)),
    ("screen_name", .text (Name.pascal name ++ "Screen"))]
  have htop : reached key [] scope = [scope] := rfl
  have hparams : (Expr.var "params").eval key scope = .ok (.list (ps.map Param.value)) := rfl
  have hsnake : isIdentifier (spelling key scope [.value (.snake (.var "name"))]) =
      isStatementName name.toList := by
    rw [← Name.isIdentifier_snake h, spelling_value, spelling_nil, List.append_nil]
    rfl
  have hroute : isIdentifier (spelling key scope
      (.value (.camel (.var "name")) :: Symbol.ofText "Route")) = mayLead name.toList := by
    have hword : isIdentifier "Route".toList = true := by decide
    rw [← Name.isIdentifier_camel_append h hword, spelling_value, spelling_ofText]
    rfl
  have hscreen : isIdentifier (spelling key scope [.value (.var "screen_name")]) =
      mayLead name.toList := by
    have hword : isIdentifier "Screen".toList = true := by decide
    rw [← Name.isIdentifier_pascal_append h hword, ← String.toList_append, spelling_value,
      spelling_nil, List.append_nil]
    rfl
  have hlisted : (Line.mk [.each "param" (.var "params")]
      [.value (.member (.var "param") "name")]).Fits key scope := by
    refine (Line.fits_each_iff htop hparams).mpr fun p hm => ?_
    rw [spelling_value, spelling_nil, List.append_nil]
    exact hp p hm
  rw [Template.namesFit_iff names?_template hx]
  simp only [codeNames, List.forall_mem_cons]
  constructor
  · rintro ⟨hs, hr, -⟩
    exact ⟨hsnake.symm.trans ((Line.fits_iff htop).mp hs),
      hroute.symm.trans ((Line.fits_iff htop).mp hr)⟩
  · rintro ⟨hs, hl⟩
    have hshown := (Line.fits_iff htop).mpr (hscreen.trans hl)
    exact ⟨(Line.fits_iff htop).mpr (hsnake.trans hs), (Line.fits_iff htop).mpr (hroute.trans hl),
      hlisted, hshown.branch _ _, hlisted.branch _ _, hshown.branch _ _, by simp⟩

end Route

namespace Template.Request

/-- Whether the names that are asked for stay identifiers: without the underscores at their head
where the text has them in capitals, though there may be nothing left of a name that only starts a
longer one. -/
def namesStay : Request → Bool
  | provider _ name _ => isClassName name.toList
  | storage _ kind name _ => kind != Drift.Kind.accessor.word || isClassName name.toList
  | repository name entity =>
    isClassName (Repository.entityName name entity).toList && mayLead name.toList
  | sync kind table _ => kind != Sync.Kind.schema.word || mayLead table.toList
  | policies .. => true
  | model name _ => isClassName name.toList
  | route name _ _ => isStatementName name.toList && mayLead name.toList

theorem Fills.namesFit_iff {q : Request} {p : Packaged} {scope : Scope} (hq : q.Fills p scope)
    {xs : List (Symbol Mark)} (hx : p.body.marked p.key scope = .ok xs) :
    NamesFit xs ↔ q.namesStay = true := by
  cases hq with
  | provider p hn => exact Provider.namesFit_iff p hn hx
  | accessor hn =>
    rw [Drift.namesFit_accessor hn hx]
    simp [namesStay]
  | migration hn =>
    refine iff_of_true (Drift.namesFit_migration hn hx) ?_
    simp [namesStay, Drift.Kind.word]
  | repository hn =>
    rw [Repository.namesFit_iff hn hx, namesStay, Bool.and_eq_true]
  | sync k ht hu =>
    cases k with
    | rules =>
      refine iff_of_true (Sync.namesFit_rules ht hu hx) ?_
      simp [namesStay, Sync.Kind.word]
    | schema =>
      rw [Sync.namesFit_schema ht hx]
      simp [namesStay]
  | policies p ht hc => exact iff_of_true (Sql.namesFit_policies p ht hc hx) rfl
  | model hn hfs =>
    exact Model.namesFit_iff hn (fun f hf => (Field.typed_of_parse hfs hf).name) hx
  | route hn hpath hps =>
    rw [Route.namesFit_iff hn (fun p hp => (Route.typed_of_params hps hp).name) hx, namesStay,
      Bool.and_eq_true]

/-- The names in a generated text are all identifiers if those that are asked stay identifiers in
the spellings of the text, and only then. -/
theorem names_identifiers_iff {q : Request} {s : String} (h : q.text = .ok s) (ht : ¬ q.IsTable) :
    ∃ p scope xs, q.Fills p scope ∧ p.body.marked p.key scope = .ok xs ∧ plain xs = s ∧
      ((∀ w ∈ names xs, isIdentifier (spelled w) = true) ↔ q.namesStay = true) := by
  obtain ⟨p, scope, xs, hq, hx, hs⟩ := exists_marked h ht
  exact ⟨p, scope, xs, hq, hx, hs, hq.namesFit_iff hx⟩

def userStore : Request := .repository "__userRepository" none

theorem names_identifiers_iff_userStore : ∃ s, userStore.text = .ok s ∧ ¬ userStore.IsTable ∧
    ∃ p scope xs, userStore.Fills p scope ∧ p.body.marked p.key scope = .ok xs ∧ plain xs = s ∧
      ∀ w ∈ names xs, isIdentifier (spelled w) = true := by
  have hsome : userStore.text.toOption.isSome = true := by decide +kernel
  obtain ⟨s, hs⟩ := Option.isSome_iff_exists.mp hsome
  have ht : ¬ userStore.IsTable := nofun
  rw [toOption_eq_some] at hs
  obtain ⟨p, scope, xs, hq, hx, hplain, hnames⟩ := names_identifiers_iff hs ht
  exact ⟨s, hs, ht, p, scope, xs, hq, hx, hplain, hnames.mpr (by decide)⟩

def firstProvider : Request := .provider "notifier" "_1" none

theorem name_loses_head : ∃ s p scope xs, firstProvider.text = .ok s ∧ firstProvider.Fills p scope ∧
    p.body.marked p.key scope = .ok xs ∧ plain xs = s ∧
    ∃ w ∈ names xs, isIdentifier (spelled w) = false := by
  have hsome : firstProvider.text.toOption.isSome = true := by decide +kernel
  obtain ⟨s, hs⟩ := Option.isSome_iff_exists.mp hsome
  rw [toOption_eq_some] at hs
  obtain ⟨p, scope, xs, hq, hx, hplain⟩ := exists_marked hs nofun
  have hnames : ¬ NamesFit xs := by
    rw [hq.namesFit_iff hx]
    decide
  simp only [NamesFit, not_forall, Bool.not_eq_true] at hnames
  obtain ⟨w, hw, hi⟩ := hnames
  exact ⟨s, p, scope, xs, hs, hq, hx, hplain, w, hw, hi⟩

end Template.Request

end Scaffold
