import Scaffold.Proofs.Files.Output
import Scaffold.Proofs.Project.Sections

/-! # Loaded projects

What holds of every project that was loaded, whatever its document holds: it is called by the place
of its settings file, its name and kind have passed their checks, and what is written for it lies
below its root. Only a link that leads back to itself can send an output elsewhere.
-/

namespace Scaffold

/-! ### Values as texts -/

namespace Decimal

theorem write_ne_nil (l : Layout) (d : Decimal) : l.write d ≠ [] := by
  rw [Layout.write]
  rcases significant d.digits with ⟨cs, zeros⟩
  dsimp only
  split_ifs <;> simp

theorem floatText_ne_empty (x : Float) : floatText x ≠ "" := by
  have hw := write_ne_nil layout
  rw [floatText]
  dsimp only
  split_ifs <;> simp [hw]

end Decimal

namespace Value

theorem toString_int_ne_empty (n : ℤ) : toString n ≠ "" := by
  cases n with
  | ofNat n =>
    change Nat.repr n ≠ ""
    simp
  | negSucc n =>
    change "-" ++ Nat.repr (n + 1) ≠ ""
    simp

theorem display_ne_empty {v : Value} (h : v.isTruthy = true) (code : Char → ℕ) :
    v.display code ≠ "" := by
  have hwrapped (left inner right : String) (hl : left ≠ "") : left ++ inner ++ right ≠ "" := by
    simp [hl]
  cases v with
  | null => cases h
  | listAgain =>
    change "[...]" ≠ ""
    decide
  | mapAgain =>
    change "\x7b...\x7d" ≠ ""
    decide
  | bool b =>
    change (if b then "True" else "False") ≠ ""
    cases b <;> decide
  | int n => exact toString_int_ne_empty n
  | float x => exact Decimal.floatText_ne_empty x
  | text s => simpa [isTruthy, display] using h
  | bytes bs =>
    change String.ofList (Text.quotedBytes bs) ≠ ""
    simp [Text.quotedBytes]
  | date d =>
    rw [display, Date.text]
    simp [toString]
  | moment t =>
    rw [display, Moment.text]
    simp [toString]
  | list | map | pairs => exact hwrapped _ _ _ (by decide)
  | set members =>
    cases members with
    | nil => cases h
    | cons v members => exact hwrapped _ _ _ (by decide)

theorem put_ne_nil (k v : Value) (es : List (Value × Value)) : put k v es ≠ [] := by
  cases es with
  | nil => simp [put]
  | cons e es =>
    rw [put]
    split <;> simp

theorem foldl_put_eq_nil {α : Type} {key value : α → Value} {as : List α}
    {es : List (Value × Value)} (h : as.foldl (fun es a => put (key a) (value a) es) es = []) :
    as = [] ∧ es = [] := by
  induction as generalizing es with
  | nil => exact ⟨rfl, h⟩
  | cons a as ih => exact absurd (ih h).2 (put_ne_nil _ _ es)

end Value

/-! ### What a document gives -/

namespace Yaml.Graph

variable {g : Graph} {i : ℕ}

theorem member?_eq_none (hm : g.isMap i = true) (ht : (g.value i).isTruthy = false)
    (key : String) : g.member? key i = none := by
  have htag : g.tag i = .map := beq_iff_eq.mp hm
  have hes : g.entries i = [] := by
    rw [value, valueFrom, htag] at ht
    simp only [List.contains_nil, Bool.false_eq_true, if_false, Value.isTruthy, Bool.not_eq_false',
      List.isEmpty_iff] at ht
    exact (Value.foldl_put_eq_nil ht).1
  rw [member?, hes]
  rfl

end Yaml.Graph

namespace Project

open Disk Output Scaffold.Action

variable {d : Disk} {directory : Option Path} {h : Host} {shown : String} {p : Path} {l : Location}
  {g : Yaml.Graph} {project : Project} {root part database : Option ℕ} {v : Option Value}

/-- The value that a document gives for a setting: under a key of a section, as far as the document
and the section are mappings. -/
def given? (g : Yaml.Graph) (part key : String) : Option Value :=
  let found := ((g.root.filter g.isMap).bind (g.member? part)).filter g.isMap
  (found.bind (g.member? key)).map g.value

theorem setting?_sectionOf {name : String} (h : sectionOf g root name = .ok part) (key : String) :
    setting? g part key =
      (((root.bind (g.member? name)).filter g.isMap).bind (g.member? key)).map g.value := by
  rw [sectionOf] at h
  cases hi : root.bind (g.member? name) with
  | none =>
    rw [hi] at h
    cases h
    rfl
  | some i =>
    rw [hi] at h
    dsimp only at h
    rw [Option.filter_some]
    cases hm : g.isMap i with
    | false =>
      -- what is no mapping is left out, or it would have been refused
      rw [hm] at h
      split at h
      · cases h
        rfl
      · cases h
    | true =>
      rw [hm] at h
      split at h
      · rename_i ht
        cases h
        simp [setting?, Yaml.Graph.member?_eq_none hm (by simpa using ht)]
      · cases h
        rfl

theorem sectionOf_of_sections (hs : sections g = .ok (part, database)) :
    sectionOf g (g.root.filter g.isMap) "project" = .ok part ∧
      sectionOf g (g.root.filter g.isMap) "supabase" = .ok database := by
  rw [sections] at hs
  dsimp only at hs
  split at hs
  · cases hs
  rename_i hmap
  obtain ⟨_, hp, hs⟩ := bind_eq_ok.mp hs
  obtain ⟨_, hd, hs⟩ := bind_eq_ok.mp hs
  cases hs
  have hfilter : (g.root.filter fun i => g.tag i != .null) = g.root.filter g.isMap := by
    cases hr : g.root with
    | none => rfl
    | some r =>
      rw [hr, Option.filter_some] at hmap
      rw [Option.filter_some, Option.filter_some]
      cases ht : g.tag r <;> simp_all [Yaml.Graph.isMap]
  exact hfilter ▸ ⟨hp, hd⟩

theorem ofGraph_eq_ok (hg : ofGraph h shown p g = .ok project) :
    nameOf h shown (given? g "project" "name") = .ok project.name ∧
      kindOf h shown (given? g "project" "type") = .ok project.kind ∧
      databasePathOf h (given? g "supabase" "path") = .ok project.databasePath := by
  obtain ⟨part, database, hs, hn, hk, hpath, -⟩ := exists_of_ofGraph hg
  obtain ⟨hp, hd⟩ := sectionOf_of_sections hs
  rw [setting?_sectionOf hp] at hn hk
  rw [setting?_sectionOf hd] at hpath
  exact ⟨hn, hk, hpath⟩

/-! ### What is loaded -/

/-- The first regular file of a directory among those that settings may be in. -/
def IsSettingsFile (d : Disk) (directory : Option Path) (p : Path) : Prop :=
  let inside (name : String) : Path := directory.getD d.currentPath / name
  d.isFile p = true ∧ (p = inside "saas.yaml" ∨
    p = inside "saas.yml" ∧ d.isFile (inside "saas.yaml") = false)

theorem find?_eq_some_iff : find? d directory = some p ↔ IsSettingsFile d directory p := by
  rw [find?, fileNames, List.map_cons, List.map_cons, List.map_nil, List.find?_cons,
    List.find?_singleton, IsSettingsFile]
  cases hy : d.isFile (directory.getD d.currentPath / "saas.yaml") with
  | true =>
    constructor
    · intro h
      cases h
      exact ⟨hy, Or.inl rfl⟩
    · rintro ⟨-, rfl | ⟨-, h⟩⟩
      · rfl
      · cases h
  | false =>
    constructor
    · intro h
      obtain ⟨hf, he⟩ := Option.ite_none_right_eq_some.mp h
      cases he
      exact ⟨hf, Or.inr ⟨rfl, rfl⟩⟩
    · rintro ⟨hf, rfl | ⟨rfl, -⟩⟩
      · cases hy.symm.trans hf
      · exact if_pos hf

/-- What a project has from the document of its settings file, which lies at a location. -/
structure DescribedBy (d : Disk) (project : Project) (p : Path) (l : Location)
    (g : Yaml.Graph) : Prop where
  content : ∃ content, d.find p = .ok (.found l (.file content)) ∧
    readGraph d.host p.text content = .ok g
  path : project.path = ⟨.root, l⟩
  settled : d.Settled l
  name_eq_none : project.name = none ↔
    ∀ v, given? g "project" "name" = some v → v = .null
  checkName : ∀ name, project.name = some name → Name.checkProjectName name = .ok ()
  kind : project.kind ∈ ["flutter", "dart", "other"]
  databasePath : project.databasePath ≠ ""

theorem written_eq_none {q : Value → Bool} (hw : written h v q = .ok none) :
    v.filter q = none := by
  rw [written] at hw
  split at hw
  · assumption
  · obtain ⟨_, -, he⟩ := map_eq_ok.mp (mapError_eq_ok.mp hw)
    cases he

theorem written_eq_some {q : Value → Bool} {text : String} (hw : written h v q = .ok (some text)) :
    ∃ w, v.filter q = some w ∧ text = w.display h.code := by
  rw [written] at hw
  split at hw
  · cases hw
  · rename_i w hv
    obtain ⟨text', hw', he⟩ := map_eq_ok.mp (mapError_eq_ok.mp hw)
    cases he
    refine ⟨w, hv, ?_⟩
    rw [Host.write] at hw'
    split at hw'
    · cases hw'
    split at hw'
    · exact (Except.ok.inj hw').symm
    · cases hw'

theorem nameOf_eq_ok {name : Option String} (hn : nameOf h shown v = .ok name) :
    (name = none ↔ ∀ w, v = some w → w = .null) ∧
      ∀ n, name = some n → Name.checkProjectName n = .ok () := by
  obtain ⟨_, hw, hn⟩ := bind_eq_ok.mp hn
  obtain ⟨hc, hn⟩ := check_bind_eq_ok.mp hn
  cases hn
  have hnull (w : Value) : w.isNull = true ↔ w = .null := by cases w <;> simp [Value.isNull]
  constructor
  · cases name with
    | none =>
      have hv : v.filter (!·.isNull) = none := written_eq_none hw
      simpa [Option.filter_eq_none_iff, hnull] using hv
    | some n =>
      obtain ⟨w, hv, -⟩ := written_eq_some hw
      obtain ⟨rfl, hne⟩ := Option.filter_eq_some_iff.mp hv
      simpa [← hnull] using hne
  · rintro n rfl
    rw [told, mapError_eq_ok, checkName] at hc
    split at hc
    · exact if_pos ‹_›
    · cases hc

theorem kind_of_kindOf {kind : String} (hk : kindOf h shown v = .ok kind) :
    kind ∈ projectTypes := by
  obtain ⟨_, -, hk⟩ := bind_eq_ok.mp hk
  obtain ⟨hc, hk⟩ := check_bind_eq_ok.mp hk
  cases hk
  rw [told, mapError_eq_ok, checkKind] at hc
  split at hc
  · exact List.contains_iff_mem.mp ‹_›
  · cases hc

theorem databasePathOf_ne_empty {path : String} (hp : databasePathOf h v = .ok path) :
    path ≠ "" := by
  obtain ⟨text, hw, hp⟩ := bind_eq_ok.mp hp
  cases hp
  cases text with
  | none => decide
  | some text =>
    obtain ⟨w, hv, rfl⟩ := written_eq_some hw
    exact Value.display_ne_empty (Option.filter_eq_some_iff.mp hv).2 _

/-- What comes of an output below a root: it is refused and the disk left alone, or it is stored at
a location, which lies below the root unless a link that leads back to itself was met. -/
inductive Landed (d : Disk) (root : Path) (written text : String) :
    Except Failure Path × Disk → Prop
  | refused {f : Failure} : Landed d root written text (.error f, d)
  | stored {p : Path} {l : Location} {d' : Disk} (within : p.isWithin root = true)
      (stores : Stores d l text.toUTF8.toList d') (there : l = p.parts ↔ d.LinkFree p.parts)
      (below : d.LinkFree p.parts → Below root.parts l)
      (free : d.Resolvable (root.join (.ofString written)) → d.LinkFree p.parts) :
      Landed d root written text (.ok p, d')

theorem landed_write (hd : d.WellFormed) {b : Location} (hb : d.entry? b = some .directory)
    (written text : String) :
    Landed d ⟨.root, b⟩ written text (effect (write written text (some ⟨.root, b⟩)) d) := by
  have h := wrote_write hd written text (some ⟨.root, b⟩)
  generalize effect (write written text (some ⟨.root, b⟩)) d = r at h
  cases h with
  | failed => exact .refused
  | emptied _ hc => cases hc.symm.trans (Text.encode_coe text)
  | stored ht hc ho =>
    cases hc.symm.trans (Text.encode_coe text)
    obtain ⟨-, -, hl⟩ := target_eq_ok.mp ht
    obtain ⟨hw, hfree⟩ := within_of_locate hd hb rfl hl
    have hst := ho.stores text.toUTF8.toList
    refine .stored hw hst ⟨fun he => ?_, location_of_linkFree hd hl ho⟩
      (fun hf => below_of_linkFree hd hb hw hl hf ho) hfree
    subst he
    have hp := hst.wellFormed.settled_of_entry hst.holds (by simp)
    exact (linkFree_congr hst.links).mp hp.linkFree

/-- A loaded project is called by the place of the first settings file in its directory, with no
link on the way; its name is missing exactly if the document gives none, its name and kind are valid
and its directory for the database service is not empty. A migration of it is refused, and the disk
left alone, or lies below its root, unless a link that leads back to itself is met on the way. -/
theorem loaded_described (hd : d.WellFormed) (h : ofDirectory d directory = .ok (some project)) :
    (∃ p l g, IsSettingsFile d directory p ∧ DescribedBy d project p l g) ∧
      ∀ name now (text : String), Landed d project.root
        (migrationPath (some project) name now).text text
        (effect (write (migrationPath (some project) name now).text text (some project.root)) d) := by
  obtain ⟨p, hp, hload⟩ := ofDirectory_eq_some h
  obtain ⟨-, l, content, hfile⟩ := find?_eq_some hp
  obtain ⟨hnull, hpath, content', g, hread, hg, hgraph⟩ := load_eq_ok hload
  have hplace : project.path = ⟨.root, l⟩ :=
    Except.ok.inj (hpath.symm.trans (hd.resolve_of_find hnull hfile))
  have he : d.entry? l = some (.file content) := (walk_eq_iff.mp hfile).entry?_found l _ rfl
  obtain rfl : content = content' := by
    rw [readFile, hfile] at hread
    exact Except.ok.inj hread
  refine ⟨⟨p, l, g, find?_eq_some_iff.mp hp, ?_⟩, fun name now text => ?_⟩
  · obtain ⟨hname, hkind, hdatabase⟩ := ofGraph_eq_ok hgraph
    obtain ⟨hnone, hcheck⟩ := nameOf_eq_ok hname
    refine ⟨⟨content, hfile, hg⟩, hplace, hd.settled_of_entry he (by simp), hnone, hcheck, ?_, ?_⟩
    · simpa [projectTypes, or_left_comm] using kind_of_kindOf hkind
    · exact databasePathOf_ne_empty hdatabase
  · have hroot : project.root = ⟨.root, l.dropLast⟩ := by
      rw [Project.root, hplace]
      rfl
    rw [hroot]
    exact landed_write hd (hd.dropLast he) _ _

/-- A disk with a project whose directory for the database service is given past a link that leads
back to itself, and with a project that a link of the first leads to. -/
def strayDisk : Disk where
  entries := [(["other"], .directory),
    (["other", "saas.yml"], .file "project:\n  name: app\n".toUTF8.toList),
    (["project"], .directory),
    (["project", "saas.yaml"], .file "supabase:\n  path: loop/../link\n".toUTF8.toList),
    (["project", "loop"], .link "loop"), (["project", "link"], .link "../other")]
  current := ["project"]

theorem wellFormed_strayDisk : strayDisk.WellFormed := .of_entries (by decide) (by decide)

def noon : Moment := { date := ⟨2024, 5, 1⟩, hour := 12, minute := 0, second := 0 }

theorem loaded_described_app : ∃ project, strayDisk.WellFormed ∧
    ofDirectory strayDisk (some (.ofString "link")) = .ok (some project) ∧
    project.name = some "app" ∧
    (∃ p l g, IsSettingsFile strayDisk (some (.ofString "link")) p ∧
      DescribedBy strayDisk project p l g) ∧
    ∃ d', effect (write (migrationPath (some project) "t" noon).text "new" (some project.root))
      strayDisk = (.ok ⟨.root, ["other", "supabase", "migrations",
        "20240501120000_create_t_table.sql"]⟩, d') ∧
      Landed strayDisk project.root (migrationPath (some project) "t" noon).text "new"
        (.ok ⟨.root, ["other", "supabase", "migrations", "20240501120000_create_t_table.sql"]⟩,
          d') := by
  let project : Project := { path := ⟨.root, ["other", "saas.yml"]⟩, name := some "app" }
  have hload : ofDirectory strayDisk (some (.ofString "link")) = .ok (some project) := by
    decide +kernel
  obtain ⟨hdescribed, hlands⟩ := loaded_described wellFormed_strayDisk hload
  have hwrite : (effect (write (migrationPath (some project) "t" noon).text "new"
      (some project.root)) strayDisk).1 = .ok ⟨.root, ["other", "supabase", "migrations",
        "20240501120000_create_t_table.sql"]⟩ := by decide +kernel
  have hlanded := hlands "t" noon "new"
  generalize he : effect (write (migrationPath (some project) "t" noon).text "new"
    (some project.root)) strayDisk = result at hwrite hlanded
  obtain ⟨_, d'⟩ := result
  cases hwrite
  exact ⟨project, wellFormed_strayDisk, hload, rfl, hdescribed, d', he, hlanded⟩

/-- After a link that leads back to itself the directory for the database service is not resolved,
and the migration is stored where a link in it leads, outside of the root. -/
theorem migration_strays : ∃ project p d' k, strayDisk.WellFormed ∧
    ofDirectory strayDisk none = .ok (some project) ∧ project.root = ⟨.root, ["project"]⟩ ∧
    effect (write (migrationPath (some project) "t" noon).text "new" (some project.root))
      strayDisk = (.ok p, d') ∧
    strayDisk.entry? k = none ∧ d'.entry? k = some (.file "new".toUTF8.toList) ∧
    ¬ Below project.root.parts k := by
  let project : Project :=
    { path := ⟨.root, ["project", "saas.yaml"]⟩, databasePath := "loop/../link" }
  have hload : ofDirectory strayDisk none = .ok (some project) := by decide +kernel
  have hwrite : (effect (write (migrationPath (some project) "t" noon).text "new"
      (some project.root)) strayDisk).1 = .ok ⟨.root, ["project", "link", "migrations",
        "20240501120000_create_t_table.sql"]⟩ := by decide +kernel
  refine ⟨project, _, _, ["other", "migrations", "20240501120000_create_t_table.sql"],
    wellFormed_strayDisk, hload, by decide, Prod.ext hwrite rfl, by decide, ?_, by decide⟩
  decide +kernel

end Project

end Scaffold
