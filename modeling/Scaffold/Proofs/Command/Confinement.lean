import Scaffold.Main
import Scaffold.Proofs.Command.Run
import Scaffold.Proofs.Project.Root

/-! # Where runs write

A run writes below the working directory. Only a migration goes elsewhere, and only if the settings
file is a link: it then goes below the directory of the file that the link leads to.
-/

namespace Scaffold

namespace Command

open Arguments Disk Output

variable {c : Context} {d d₁ : Disk} {arguments : List String} {r : Reading} {p : Path}
  {l : Location} {path text : String} {base : Option Path}

def output? (c : Context) (d : Disk) (arguments : List String) : Option Path :=
  (job c d arguments).toOption.bind (Program.target? d)

theorem output?_eq_some {j : Job} (hj : job c d arguments = .ok j)
    (hp : j.plan = .ok (.write path text base)) :
    output? c d arguments = some ((base.getD d.currentPath).join (.ofString path)) := by
  rw [output?, hj]
  simp [Except.toOption, Program.target?, hp]

/-- Whether the settings file of the working directory is a link, which leads to a file at a
location. -/
def LinkedSettings (d : Disk) (l : Location) : Prop :=
  ∃ p k target content, Project.find? d none = some p ∧
    d.findLink p = .ok (.found k (.link target)) ∧ d.find p = .ok (.found l (.file content))

inductive Base (d : Disk) (arguments : List String) : Location → Prop
  | current : Base d arguments d.current
  | linked {l : Location} (hw : GivesWrite arguments) (hl : LinkedSettings d l) :
      Base d arguments l.dropLast

/-- A run is confined to the working directory, or for a migration to the root of the project. -/
theorem Asked.exists_base {plan : Except Failure Plan} (hd : d.WellFormed)
    (h : Asked c d arguments plan) (hp : plan = .ok (.write path text base)) :
    ∃ b, Base d arguments b ∧ d.entry? b = some .directory ∧
      base.getD d.currentPath = ⟨.root, b⟩ := by
  cases h with
  | quiet _ hq =>
    obtain ⟨shown, hs⟩ := hq _ hp
    cases hs
  | output =>
    cases hp
    exact ⟨d.current, .current, hd.current, rfl⟩
  | migration hw =>
    obtain ⟨_, -, ⟨-, hprint⟩ | ⟨-, project, hproject, hwrite⟩⟩ := createTablePlan_eq_ok.mp hp
    · cases hprint
    cases hwrite
    cases project with
    | none => exact ⟨d.current, .current, hd.current, rfl⟩
    | some project =>
      obtain ⟨p, l, hroot⟩ := Project.exists_rootOf hd hproject
      obtain ⟨content, hfile⟩ := hroot.file
      have hdir : d.entry? l.dropLast = some .directory :=
        hd.dropLast ((walk_eq_iff.mp hfile).entry?_found l _ rfl)
      by_cases hl : ∃ k target, d.findLink p = .ok (.found k (.link target))
      · obtain ⟨k, target, hl⟩ := hl
        exact ⟨_, .linked hw ⟨p, k, target, content, hroot.found, hl, hfile⟩, hdir, hroot.root⟩
      · have hr := hroot.unlinked fun k target he => hl ⟨k, target, he⟩
        exact ⟨d.current, .current, hd.current, hd.resolve_directory hd.current hr⟩

/-- What a job stores lies below the working directory, or below the root of its project if the
settings file is a link, unless a link that leads back to itself is met. -/
theorem below_of_opens (hd : d.WellFormed) {j : Job} (hj : job c d arguments = .ok j)
    (hp : j.plan = .ok (.write path text base)) (ht : target d path base = .ok p)
    (ho : Opens d p l d₁) (hres : ∀ p, output? c d arguments = some p → d.Resolvable p) :
    Below d.current l ∨
      GivesWrite arguments ∧ ∃ l', LinkedSettings d l' ∧ Below l'.dropLast l := by
  obtain ⟨b, hb, hdir, hbase⟩ := (asked_job hj).exists_base hd hp
  obtain ⟨-, -, hl⟩ := target_eq_ok.mp ht
  have hpath := hres _ (output?_eq_some hj hp)
  rw [hbase] at hpath
  obtain ⟨hwithin, hfree⟩ := within_of_locate hd hdir hbase hl
  have hbelow := below_of_linkFree hd hdir hwithin hl (hfree hpath) ho
  cases hb with
  | current => exact Or.inl hbelow
  | linked hw hlinked => exact Or.inr ⟨hw, _, hlinked, hbelow⟩

/-- The root of a project is the directory of the file that its settings file leads to. A run whose
output is resolved past no link that leads back to itself writes below the working directory, or
below the root of its project if the settings file there is a link. -/
theorem execute_confined (hd : d.WellFormed) :
    (∀ directory project, Project.ofDirectory d directory = .ok (some project) →
      ∃ p l, Project.RootOf d directory project.root p l) ∧
    ∀ stdout c arguments, (∀ p, output? c d arguments = some p → d.Resolvable p) →
      ∀ k, (execute stdout c arguments d).2.file? k ≠ d.file? k →
        Below d.current k ∨
          GivesWrite arguments ∧ ∃ l, LinkedSettings d l ∧ Below l.dropLast k := by
  refine ⟨fun directory project h => Project.exists_rootOf hd h,
    fun stdout c arguments hres k hk => ?_⟩
  rw [execute_eq, run] at hk
  dsimp only at hk
  split at hk
  · exact absurd rfl hk
  rename_i j hj
  have hr := j.runs_run hd
  generalize j.run d = result at hr hk
  have hstored {l : Location} {d' : Disk} {content : List UInt8} (hs : Stores d l content d')
      (hk : d'.file? k ≠ d.file? k) : k = l := by
    by_contra hkl
    exact hk (hs.file?_eq hkl)
  cases hr with
  | refused | printed | unwritten => exact absurd rfl hk
  | written hp ht _ ho =>
    rw [hstored (ho.stores _) hk]
    exact below_of_opens hd hj hp ht ho hres
  | emptied hp ht _ ho =>
    rw [hstored (ho.stores _) hk]
    exact below_of_opens hd hj hp ht ho hres

/-- A disk on which the settings file of a project is a link to one that projects share. -/
def linkedDisk : Disk where
  entries := [(["project"], .directory), (["project", "saas.yaml"], .link "../shared/saas.yaml"),
    (["shared"], .directory), (["shared", "saas.yaml"], .file [])]
  current := ["project"]

theorem wellFormed_linkedDisk : linkedDisk.WellFormed := .of_entries (by decide) (by decide)

theorem execute_confined_linked : linkedDisk.WellFormed ∧ ∃ project p l,
    Project.ofDirectory linkedDisk none = .ok (some project) ∧
    Project.RootOf linkedDisk none project.root p l ∧
    (execute .utf8 firstOfMay ["supabase", "create-table", "t", "-c", "id:int", "--write"]
      linkedDisk).2.file?
        ["shared", "supabase", "migrations", "20240501123005_create_t_table.sql"] ≠ none ∧
    ∃ l, LinkedSettings linkedDisk l ∧
      Below l.dropLast
        ["shared", "supabase", "migrations", "20240501123005_create_t_table.sql"] := by
  obtain ⟨hroot, hrun⟩ := execute_confined wellFormed_linkedDisk
  have hload : Project.ofDirectory linkedDisk none =
      .ok (some { path := ⟨.root, ["shared", "saas.yaml"]⟩ }) := by decide +kernel
  obtain ⟨p, l, hp⟩ := hroot none _ hload
  have hout : output? firstOfMay linkedDisk
      ["supabase", "create-table", "t", "-c", "id:int", "--write"] = some ⟨.root,
        ["shared", "supabase", "migrations", "20240501123005_create_t_table.sql"]⟩ := by
    decide +kernel
  have hfile : (execute .utf8 firstOfMay
      ["supabase", "create-table", "t", "-c", "id:int", "--write"] linkedDisk).2.file?
        ["shared", "supabase", "migrations", "20240501123005_create_t_table.sql"] ≠ none := by
    decide +kernel
  have hconfined := hrun .utf8 firstOfMay
    ["supabase", "create-table", "t", "-c", "id:int", "--write"]
    (fun p h => by
      cases hout.symm.trans h
      exact ⟨["shared", "supabase", "migrations", "20240501123005_create_t_table.sql"],
        by decide +kernel⟩)
    ["shared", "supabase", "migrations", "20240501123005_create_t_table.sql"] hfile
  obtain ⟨-, hlinked⟩ := hconfined.resolve_left (by decide)
  exact ⟨wellFormed_linkedDisk, _, p, l, hload, hp, hfile, hlinked⟩

/-- The migration of a project whose settings file is a link is written next to the file that the
link leads to, outside of the working directory. -/
theorem execute_leaves_current : ∃ project k,
    Project.ofDirectory linkedDisk none = .ok (some project) ∧
    linkedDisk.resolve linkedDisk.currentPath ≠ .ok project.root ∧
    (execute .utf8 firstOfMay ["supabase", "create-table", "t", "-c", "id:int", "--write"]
      linkedDisk).2.file? k ≠ linkedDisk.file? k ∧
    ¬ linkedDisk.current <+: k := by
  refine ⟨{ path := ⟨.root, ["shared", "saas.yaml"]⟩ },
    ["shared", "supabase", "migrations", "20240501123005_create_t_table.sql"], ?_, ?_, ?_, ?_⟩
  · decide +kernel
  · decide +kernel
  · decide +kernel
  · decide

end Command

end Scaffold
