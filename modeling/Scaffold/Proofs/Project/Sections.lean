import Scaffold.Proofs.Project.Settings

/-! # Sections of the wrong kind

A section of the settings is a mapping, and what stands in place of one is refused, the section on
the project before that on the database service. But a section that counts as absent is left out,
whatever its kind: false, zero, and what is empty stand for no settings, as nothing does.
-/

namespace Scaffold

/-- What counts as absent, though it is neither nothing nor a mapping. -/
inductive Value.Blank : Value → Prop
  | bool : Blank (.bool false)
  | int : Blank (.int 0)
  | float {x : Float} (h : (x == 0) = true) : Blank (.float x)
  | text : Blank (.text "")
  | bytes : Blank (.bytes [])
  | list : Blank (.list [])
  | pairs : Blank (.pairs [])
  | set : Blank (.set [])

theorem Value.isTruthy_eq_false_iff {v : Value} :
    v.isTruthy = false ↔ v = .null ∨ v = .map [] ∨ v.Blank := by
  constructor
  · intro h
    cases v with
    | null => exact Or.inl rfl
    | bool b =>
      cases h
      exact Or.inr (Or.inr .bool)
    | int n =>
      obtain rfl : n = 0 := by simpa [isTruthy] using h
      exact Or.inr (Or.inr .int)
    | float x => exact Or.inr (Or.inr (.float (by simpa [isTruthy] using h)))
    | text s =>
      obtain rfl : s = "" := by simpa [isTruthy] using h
      exact Or.inr (Or.inr .text)
    | bytes bs =>
      obtain rfl : bs = [] := by simpa [isTruthy] using h
      exact Or.inr (Or.inr .bytes)
    | list items =>
      obtain rfl : items = [] := by simpa [isTruthy] using h
      exact Or.inr (Or.inr .list)
    | map entries =>
      obtain rfl : entries = [] := by simpa [isTruthy] using h
      exact Or.inr (Or.inl rfl)
    | set members =>
      obtain rfl : members = [] := by simpa [isTruthy] using h
      exact Or.inr (Or.inr .set)
    | pairs entries =>
      obtain rfl : entries = [] := by simpa [isTruthy] using h
      exact Or.inr (Or.inr .pairs)
    | date | moment | listAgain | mapAgain => cases h
  · rintro (rfl | rfl | h)
    · rfl
    · rfl
    · cases h with
      | float h => simp [isTruthy, h]
      | bool | int | text | bytes | list | pairs | set => rfl

theorem Value.not_blank {v : Value} (h : v.isTruthy = true) : ¬ v.Blank := by
  intro hb
  rw [isTruthy_eq_false_iff.mpr (Or.inr (Or.inr hb))] at h
  cases h

/-! ### Which nodes are mappings -/

namespace Yaml

variable {g : Graph} {i : ℕ} {v : Value} {es : List (Value × Value)}

theorem Scalar.time_ne_map {stamp : Stamp} (h : time stamp = .ok v) : v ≠ .map es := by
  rintro rfl
  rw [time] at h
  split at h
  · obtain ⟨_, -, h⟩ := map_eq_ok.mp h
    cases h
  · obtain ⟨_, -, h⟩ := bind_eq_ok.mp h
    obtain ⟨_, -, h⟩ := map_eq_ok.mp h
    cases h

theorem Scalar.value_ne_map {tag : Tag} {text : List Char} (h : value tag text = .ok v) :
    v ≠ .map es := by
  rintro rfl
  cases tag with
  | null | str => cases h
  | bool | int | float =>
    obtain ⟨_, -, h⟩ := map_eq_ok.mp (mapError_eq_ok.mp h)
    cases h
  | binary =>
    obtain ⟨_, -, h⟩ := map_eq_ok.mp h
    cases h
  | timestamp =>
    have h := mapError_eq_ok.mp h
    rw [timestamp] at h
    split at h
    · cases h
    · exact time_ne_map (mapError_eq_ok.mp h) rfl
  | seq | map | set | orderedMap | pairs | merge | value | other => cases h

theorem Graph.atom_ne_map (h : g.atom i = .ok v) : v ≠ .map es := by
  rw [atom] at h
  split at h
  · cases h
  · obtain ⟨text, -, h⟩ := bind_eq_ok.mp h
    rw [valueOf] at h
    split at h
    · cases h
    · exact Scalar.value_ne_map h

theorem Graph.isMap_iff : g.isMap i = true ↔ ∃ es, g.value i = .map es := by
  rw [isMap, beq_iff_eq, value, valueFrom]
  constructor
  · intro h
    rw [h]
    exact ⟨_, if_neg (by simp)⟩
  · rintro ⟨es, he⟩
    dsimp only at he
    split at he
    · simp at he
    · simp at he
    · simp at he
    · assumption
    · cases he
    · split at he
      · rename_i h
        exact absurd he (atom_ne_map h)
      · cases he

end Yaml

namespace Project

open Disk

variable {d : Disk} {h : Host} {p : Path} {shown key : String} {g : Yaml.Graph}
  {root : Option ℕ} {t : SettingsTrouble} {v : Option Value} {q : Value → Bool} {e : Failure}
  {project : Project}

/-- The settings file at a path is a document that is a mapping. -/
structure HoldsMapping (d : Disk) (p : Path) (g : Yaml.Graph) : Prop where
  path : d.host.pathFault? p = none
  content : ∃ content, d.readFile p = .ok content ∧ readGraph d.host p.text content = .ok g
  mapping : ∃ es, g.root.map g.value = some (.map es)

/-- A section is there with a value that is neither nothing nor a mapping, and does not count as
absent. -/
def IsRefused (g : Yaml.Graph) (key : String) : Prop :=
  ∃ v, setting? g g.root key = some v ∧ v ≠ .null ∧ (∀ es, v ≠ .map es) ∧ ¬ v.Blank

/-- A section is not there, or has nothing or a blank value in its place. -/
def IsLeftOut (g : Yaml.Graph) (key : String) : Prop :=
  ∀ v, setting? g g.root key = some v → v = .null ∨ v.Blank

/-! ### Reading a section -/

theorem sectionOf_eq_error :
    sectionOf g g.root key = .error t ↔ t = .sectionKind key ∧ IsRefused g key := by
  unfold IsRefused sectionOf setting?
  cases g.root.bind (g.member? key) with
  | none => simp
  | some i =>
    simp only [Option.map_some, Option.some_inj, exists_eq_left']
    cases ht : (g.value i).isTruthy with
    | false =>
      rcases Value.isTruthy_eq_false_iff.mp ht with h | h | h <;> simp [h]
    | true =>
      have hnull : g.value i ≠ .null := by
        intro h
        rw [h] at ht
        cases ht
      have hblank : ¬ (g.value i).Blank := Value.not_blank ht
      cases hm : g.isMap i with
      | true =>
        obtain ⟨es, h⟩ := Yaml.Graph.isMap_iff.mp hm
        simp [h]
      | false =>
        have hmap : ∀ es, g.value i ≠ .map es := by
          intro es h
          rw [Yaml.Graph.isMap_iff.mpr ⟨es, h⟩] at hm
          cases hm
        simp [hnull, hmap, hblank, eq_comm]

theorem sectionOf_of_isLeftOut (h : IsLeftOut g key) : sectionOf g g.root key = .ok none := by
  unfold IsLeftOut setting? at h
  unfold sectionOf
  cases hi : g.root.bind (g.member? key) with
  | none => rfl
  | some i =>
    have ht : (g.value i).isTruthy = false := by
      refine Value.isTruthy_eq_false_iff.mpr ?_
      rw [hi] at h
      exact (h _ rfl).imp_right Or.inr
    simp [ht]

theorem exists_sectionOf (h : ¬ IsRefused g key) : ∃ part, sectionOf g g.root key = .ok part := by
  cases hs : sectionOf g g.root key with
  | ok part => exact ⟨part, rfl⟩
  | error t => exact absurd (sectionOf_eq_error.mp hs).2 h

theorem sections_of_mapping (h : ∃ es, g.root.map g.value = some (.map es)) :
    sections g = do
      let project ← sectionOf g g.root "project"
      let database ← sectionOf g g.root "supabase"
      return (project, database) := by
  obtain ⟨es, h⟩ := h
  obtain ⟨r, hr, hv⟩ := Option.map_eq_some_iff.mp h
  have hmap : g.isMap r = true := Yaml.Graph.isMap_iff.mpr ⟨es, hv⟩
  have hroot : (g.root.filter fun i => g.tag i != .null) = g.root := by
    rw [Yaml.Graph.isMap, beq_iff_eq] at hmap
    simp [hr, hmap]
  have hkind : (g.root.any fun i => !g.isMap i) = false := by simp [hr, hmap]
  rw [sections, hroot]
  simp only [hkind]
  rfl

theorem sections_eq_sectionKind (h : ∃ es, g.root.map g.value = some (.map es)) :
    sections g = .error t ↔
      t = .sectionKind "project" ∧ IsRefused g "project" ∨
        t = .sectionKind "supabase" ∧ ¬ IsRefused g "project" ∧ IsRefused g "supabase" := by
  rw [sections_of_mapping h, bind_eq_error, sectionOf_eq_error]
  refine or_congr_right ?_
  constructor
  · rintro ⟨project, hp, h⟩
    have hproject : ¬ IsRefused g "project" := by
      intro hr
      cases hp.symm.trans (sectionOf_eq_error.mpr ⟨rfl, hr⟩)
    rcases bind_eq_error.mp h with h | ⟨database, -, h⟩
    · obtain ⟨he, hr⟩ := sectionOf_eq_error.mp h
      exact ⟨he, hproject, hr⟩
    · cases h
  · rintro ⟨rfl, hp, hs⟩
    obtain ⟨project, hproject⟩ := exists_sectionOf hp
    exact ⟨project, hproject, bind_eq_error.mpr (Or.inl (sectionOf_eq_error.mpr ⟨rfl, hs⟩))⟩

/-! ### Reading a document -/

theorem written_eq_error (hw : written h v q = .error e) :
    ∃ w f, v.filter q = some w ∧ h.write w = .error f ∧ e = .fault f := by
  rw [written] at hw
  split at hw
  · cases hw
  · rename_i w hv
    obtain ⟨f, hf, rfl⟩ := mapError_eq_error.mp hw
    exact ⟨w, f, hv, map_eq_error.mp hf, rfl⟩

theorem told_eq_error {x : Except SettingsTrouble Unit} (hx : told shown x = .error e) :
    ∃ t, x = .error t ∧ e = Complaint.settings shown t := by
  obtain ⟨t, ht, rfl⟩ := mapError_eq_error.mp hx
  exact ⟨t, ht, rfl⟩

theorem nameOf_ne_sectionKind :
    nameOf h shown v ≠ .error (Complaint.settings shown (.sectionKind key)) := by
  intro he
  rcases bind_eq_error.mp he with hw | ⟨name, -, he⟩
  · obtain ⟨_, _, -, -, hf⟩ := written_eq_error hw
    cases hf
  rcases check_bind_eq_error.mp he with hx | ⟨-, hx⟩
  · obtain ⟨t, ht, hf⟩ := told_eq_error hx
    cases hf
    unfold checkName at ht
    split at ht
    · cases ht
    · split at ht <;> cases ht
  · cases hx

theorem kindOf_ne_sectionKind :
    kindOf h shown v ≠ .error (Complaint.settings shown (.sectionKind key)) := by
  intro he
  rcases bind_eq_error.mp he with hw | ⟨kind, -, he⟩
  · obtain ⟨_, _, -, -, hf⟩ := written_eq_error hw
    cases hf
  rcases check_bind_eq_error.mp he with hx | ⟨-, hx⟩
  · obtain ⟨t, ht, hf⟩ := told_eq_error hx
    cases hf
    rw [checkKind] at ht
    split at ht <;> cases ht
  · cases hx

theorem databasePathOf_eq_error (he : databasePathOf h v = .error e) :
    ∃ w f, v = some w ∧ h.write w = .error f ∧ e = .fault f := by
  rcases bind_eq_error.mp he with hw | ⟨_, -, hw⟩
  · obtain ⟨w, f, hv, hf⟩ := written_eq_error hw
    exact ⟨w, f, Option.eq_some_of_filter_eq_some hv, hf⟩
  · cases hw

/-- The first section of a wrong kind is told. -/
theorem ofGraph_eq_sectionKind (hg : ∃ es, g.root.map g.value = some (.map es)) (path : Path) :
    ofGraph h shown path g = .error (Complaint.settings shown (.sectionKind key)) ↔
      key = "project" ∧ IsRefused g "project" ∨
        key = "supabase" ∧ ¬ IsRefused g "project" ∧ IsRefused g "supabase" := by
  have hs : sections g = .error (.sectionKind key) ↔ _ := sections_eq_sectionKind hg
  rw [SettingsTrouble.sectionKind.injEq, SettingsTrouble.sectionKind.injEq] at hs
  rw [← hs, ofGraph, bind_eq_error, told, mapError_eq_error]
  constructor
  · rintro (⟨t, ht, he⟩ | ⟨parts, -, he⟩)
    · cases he
      exact ht
    -- behind the sections no other complaint is of this kind
    · rcases bind_eq_error.mp he with he | ⟨name, -, he⟩
      · exact absurd he nameOf_ne_sectionKind
      rcases bind_eq_error.mp he with he | ⟨kind, -, he⟩
      · exact absurd he kindOf_ne_sectionKind
      rcases bind_eq_error.mp he with he | ⟨databasePath, -, he⟩
      · obtain ⟨_, _, -, -, hf⟩ := databasePathOf_eq_error he
        cases hf
      · cases he
  · exact fun ht => Or.inl ⟨_, ht, rfl⟩

def IsUnwritable (h : Host) (g : Yaml.Graph) (f : Fault) : Prop :=
  ∃ part v, sectionOf g g.root "supabase" = .ok part ∧ setting? g part "path" = some v ∧
    h.write v = .error f

theorem exists_ofGraph (hg : ∃ es, g.root.map g.value = some (.map es)) (path : Path)
    (hp : IsLeftOut g "project") (hs : ¬ IsRefused g "supabase") :
    (∃ project, ofGraph h shown path g = .ok project ∧ project.name = none ∧
      project.kind = defaultKind) ∨
      ∃ f, IsUnwritable h g f ∧ ofGraph h shown path g = .error (.fault f) := by
  obtain ⟨database, hdatabase⟩ := exists_sectionOf hs
  have hsections : sections g = .ok (none, database) := by
    rw [sections_of_mapping hg, sectionOf_of_isLeftOut hp, hdatabase]
    rfl
  have hkind : kindOf h shown none = .ok defaultKind := rfl
  have hrest : ofGraph h shown path g = (do
      let databasePath ← databasePathOf h (setting? g database "path")
      return { path, name := none, kind := defaultKind, databasePath }) := by
    rw [ofGraph, hsections]
    rfl
  rw [hrest]
  cases hd : databasePathOf h (setting? g database "path") with
  | ok databasePath => exact Or.inl ⟨_, rfl, rfl, rfl⟩
  | error e =>
    obtain ⟨w, f, hw, hf, rfl⟩ := databasePathOf_eq_error hd
    exact Or.inr ⟨f, ⟨database, w, hdatabase, hw, hf⟩, rfl⟩

theorem databasePath_ofGraph (hg : ∃ es, g.root.map g.value = some (.map es)) {path : Path}
    (hs : IsLeftOut g "supabase") (hp : ofGraph h shown path g = .ok project) :
    project.databasePath = defaultDatabasePath := by
  obtain ⟨part, database, hparts, -, -, hd, -⟩ := exists_of_ofGraph hp
  rw [sections_of_mapping hg, sectionOf_of_isLeftOut hs] at hparts
  obtain ⟨_, -, hparts⟩ := bind_eq_ok.mp hparts
  cases hparts
  exact (Except.ok.inj hd).symm

/-! ### Loading -/

theorem HoldsMapping.exists_load (hd : d.WellFormed) (h : HoldsMapping d p g) :
    ∃ place, load d p = ofGraph d.host p.text place g := by
  obtain ⟨content, hread, hg⟩ := h.content
  obtain ⟨place, hr⟩ := exists_resolve hd (hasNull_of_pathFault? h.path) hread
  refine ⟨place, ?_⟩
  rw [load, h.path, hread]
  change (readGraph d.host p.text content >>= _) = _
  rw [hg]
  change (d.resolve p >>= _) = _
  rw [hr]
  rfl

/-- Of a document that is a mapping, the first section with a value of another kind is refused, the
section on the project before the one on the database service, unless the value counts as absent.
A section without a value, or with one that counts as absent, is left out: then nothing is told
about it and the defaults are used. All that can still go wrong then is that the directory for the
database service cannot be written. -/
theorem section_refused_iff (hd : d.WellFormed) (h : HoldsMapping d p g) :
    (∀ key, load d p = .error (Complaint.settings p.text (.sectionKind key)) ↔
      key = "project" ∧ IsRefused g "project" ∨
        key = "supabase" ∧ ¬ IsRefused g "project" ∧ IsRefused g "supabase") ∧
    (IsLeftOut g "project" → ¬ IsRefused g "supabase" →
      (∃ project, load d p = .ok project ∧ project.name = none ∧ project.kind = defaultKind) ∨
        ∃ f, IsUnwritable d.host g f ∧ load d p = .error (.fault f)) ∧
    (IsLeftOut g "supabase" → ∀ project, load d p = .ok project →
      project.databasePath = defaultDatabasePath) ∧
    ∀ key, (Complaint.settings p.text (.sectionKind key)).notice =
      .settings s!"'{key}' must be a mapping" (some "Check the structure of your saas.yaml file")
        (some p.text) := by
  obtain ⟨place, hload⟩ := h.exists_load hd
  rw [hload]
  exact ⟨fun key => ofGraph_eq_sectionKind h.mapping place, exists_ofGraph h.mapping place,
    fun hs project => databasePath_ofGraph h.mapping hs, fun key => rfl⟩

/-- A disk with settings that have an empty list as a section, and with settings that have a number
and a text. -/
def sectionsDisk : Disk where
  entries := [(["project"], .directory),
    (["project", "saas.yaml"], .file "project: []\n".toUTF8.toList),
    (["project", "saas.yml"], .file "project: 0\nsupabase: just-a-string\n".toUTF8.toList)]
  current := ["project"]

theorem wellFormed_sectionsDisk : sectionsDisk.WellFormed := .of_entries (by decide) (by decide)

def listGraph : Yaml.Graph where
  nodes := [(0, .mapping .map [(1, 2)]), (2, .sequence .seq []), (1, .scalar .str "project".toList)]
  root := some 0

def wordGraph : Yaml.Graph where
  nodes := [(0, .mapping .map [(1, 2), (3, 4)]), (4, .scalar .str "just-a-string".toList),
    (3, .scalar .str "supabase".toList), (2, .scalar .int "0".toList),
    (1, .scalar .str "project".toList)]
  root := some 0

theorem section_refused_iff_word : sectionsDisk.WellFormed ∧
    HoldsMapping sectionsDisk (.ofString "saas.yml") wordGraph ∧
    load sectionsDisk (.ofString "saas.yml") =
      .error (Complaint.settings "saas.yml" (.sectionKind "supabase")) := by
  have hproject : setting? wordGraph wordGraph.root "project" = some (.int 0) := rfl
  have hdatabase : setting? wordGraph wordGraph.root "supabase" =
      some (.text "just-a-string") := rfl
  have hread : sectionsDisk.readFile (.ofString "saas.yml") =
      .ok "project: 0\nsupabase: just-a-string\n".toUTF8.toList := rfl
  have hholds : HoldsMapping sectionsDisk (.ofString "saas.yml") wordGraph :=
    ⟨by decide, ⟨_, hread, by decide +kernel⟩, ⟨_, rfl⟩⟩
  obtain ⟨hrefused, -⟩ := section_refused_iff wellFormed_sectionsDisk hholds
  refine ⟨wellFormed_sectionsDisk, hholds, (hrefused "supabase").mpr (Or.inr ⟨rfl, ?_, ?_⟩)⟩
  · rintro ⟨v, hv, -, -, hblank⟩
    cases hproject.symm.trans hv
    exact hblank .int
  · exact ⟨_, hdatabase, by simp, by simp, Value.not_blank (by decide)⟩

/-- An empty list in place of a section is not refused. -/
theorem blank_section_loads :
    HoldsMapping sectionsDisk (.ofString "saas.yaml") listGraph ∧
    setting? listGraph listGraph.root "project" = some (.list []) ∧
    load sectionsDisk (.ofString "saas.yaml") =
      .ok { path := ⟨.root, ["project", "saas.yaml"]⟩ } := by
  have hread : sectionsDisk.readFile (.ofString "saas.yaml") =
      .ok "project: []\n".toUTF8.toList := rfl
  exact ⟨⟨by decide, ⟨_, hread, by decide +kernel⟩, ⟨_, rfl⟩⟩, rfl, by decide +kernel⟩

end Project

end Scaffold
