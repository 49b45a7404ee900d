import Scaffold.Project.Settings
import Scaffold.Proofs.Fallible
import Scaffold.Proofs.Files.Resolve

/-! # The root of a project

The root of a project is the directory that its settings file lies in once links are followed. It is
the directory in which the file was looked up unless the file itself is a link.
-/

namespace Scaffold.Project

open Disk

variable {d : Disk} {directory : Option Path} {p q : Path} {project : Project} {name : String}
  {l : Location} {content : List UInt8}

theorem exists_of_ofGraph {h : Host} {shown : String} {g : Yaml.Graph}
    (hg : ofGraph h shown p g = .ok project) :
    ∃ part database, sections g = .ok (part, database) ∧
      nameOf h shown (setting? g part "name") = .ok project.name ∧
      kindOf h shown (setting? g part "type") = .ok project.kind ∧
      databasePathOf h (setting? g database "path") = .ok project.databasePath ∧
      project.path = p := by
  obtain ⟨⟨part, database⟩, hs, hg⟩ := bind_eq_ok.mp hg
  obtain ⟨name, hn, hg⟩ := bind_eq_ok.mp hg
  obtain ⟨kind, hk, hg⟩ := bind_eq_ok.mp hg
  obtain ⟨databasePath, hd, hg⟩ := bind_eq_ok.mp hg
  cases hg
  exact ⟨part, database, mapError_eq_ok.mp hs, hn, hk, hd, rfl⟩

theorem hasNull_of_pathFault? (h : d.host.pathFault? p = none) : hasNull p = false := by
  rw [Host.pathFault?] at h
  split at h
  · cases h
  · simpa using h

/-- A project is loaded from the document of a path that can be looked up, and is called by what the
path resolves to. -/
theorem load_eq_ok (h : load d p = .ok project) :
    hasNull p = false ∧ d.resolve p = .ok project.path ∧
      ∃ content g, d.readFile p = .ok content ∧ readGraph d.host p.text content = .ok g ∧
        ofGraph d.host p.text project.path g = .ok project := by
  rw [load] at h
  split at h
  · obtain ⟨_, he, -⟩ := bind_eq_ok.mp h
    cases he
  · rename_i hn
    obtain ⟨content, hc, h⟩ := bind_eq_ok.mp h
    obtain ⟨g, hg, h⟩ := bind_eq_ok.mp h
    obtain ⟨resolved, hr, h⟩ := bind_eq_ok.mp h
    obtain ⟨_, _, -, -, -, -, rfl⟩ := exists_of_ofGraph h
    have hnull : d.host.pathFault? p = none := Option.eq_none_iff_forall_ne_some.mpr hn
    exact ⟨hasNull_of_pathFault? hnull, hr, content, g, mapError_eq_ok.mp hc, hg, h⟩

theorem ofDirectory_eq_some (h : ofDirectory d directory = .ok (some project)) :
    ∃ p, find? d directory = some p ∧ load d p = .ok project := by
  rw [ofDirectory] at h
  split at h
  · cases h
  · rename_i p hp
    obtain ⟨project', hl, he⟩ := map_eq_ok.mp h
    cases he
    exact ⟨p, hp, hl⟩

theorem isFile_iff :
    d.isFile p = true ↔ ∃ l content, d.find p = .ok (.found l (.file content)) := by
  rw [isFile]
  split
  · simp_all
  · rename_i h
    simp only [Bool.false_eq_true, false_iff, not_exists]
    exact h

theorem find?_eq_some (h : find? d directory = some p) :
    (∃ name ∈ fileNames, p = directory.getD d.currentPath / name) ∧
      ∃ l content, d.find p = .ok (.found l (.file content)) := by
  rw [find?] at h
  obtain ⟨name, hn, he⟩ := List.mem_map.mp (List.mem_of_find?_eq_some h)
  exact ⟨⟨name, hn, he.symm⟩, isFile_iff.mp (List.find?_some h)⟩

theorem div_eq (q : Path) (h : name ∈ fileNames) :
    q / name = ⟨q.anchor, q.parts ++ [name]⟩ ∧ IsPlain name := by
  have hn : ∀ n ∈ fileNames, Path.ofString n = ⟨.relative, [n]⟩ ∧ IsPlain n := by decide
  obtain ⟨ho, hp⟩ := hn name h
  refine ⟨?_, hp⟩
  change q.join (Path.ofString name) = _
  rw [ho]
  rfl

/-- A path that leads to a file through a name leads to that name in a directory, unless there is a
link by the name. -/
theorem find_last (hd : d.WellFormed) (hn : IsPlain name)
    (h : d.find ⟨q.anchor, q.parts ++ [name]⟩ = .ok (.found l (.file content)))
    (hl : ∀ k target, d.findLink ⟨q.anchor, q.parts ++ [name]⟩ ≠ .ok (.found k (.link target))) :
    ∃ k, d.find q = .ok (.found k .directory) ∧ l = k ++ [name] := by
  have hstart : d.entry? (d.start q) ≠ none := by simp [hd.entry?_start q]
  have hgo := (walks_walk d true maxLinks (d.start q) q.parts).goesOn hd hstart
    (List.cons_ne_nil name [])
  have hfind : d.walk true maxLinks (d.start q) (q.parts ++ [name]) =
      .ok (.found l (.file content)) := h
  have hlink k target : d.walk false maxLinks (d.start q) (q.parts ++ [name]) ≠
      .ok (.found k (.link target)) := hl k target
  generalize hr : d.walk true maxLinks (d.start q) q.parts = r at hgo
  match r, hgo with
  | .ok (.found k e), ⟨m, _, hgo⟩ =>
    rw [hgo] at hfind hlink
    cases walk_eq_iff.mp hfind with
    | enter hk _ _ _ hw =>
      cases hw
      have he := (walk_eq_iff.mp hr).entry?_found k e rfl
      rw [hk] at he
      cases he
      exact ⟨k, hr, rfl⟩
    | jump hk _ hv _ _ => exact absurd (Walks.halt hk hn hv rfl).walk_eq (hlink _ _)
    | stay | up => exact absurd hn (by decide)
  | .ok (.vacant _), hgo => cases (hgo true).symm.trans hfind
  | .error _, hgo => cases (hgo true).symm.trans hfind

/-- What the root of a project is that was found in a directory. -/
structure RootOf (d : Disk) (directory : Option Path) (r p : Path) (l : Location) : Prop where
  found : find? d directory = some p
  file : ∃ content, d.find p = .ok (.found l (.file content))
  root : r = ⟨.root, l.dropLast⟩
  unlinked : (∀ k target, d.findLink p ≠ .ok (.found k (.link target))) →
    d.resolve (directory.getD d.currentPath) = .ok r

/-- The root of a project is the directory of the file that the settings file leads to, and if that
is no link the directory in which it was looked up. -/
theorem exists_rootOf (hd : d.WellFormed) (h : ofDirectory d directory = .ok (some project)) :
    ∃ p l, RootOf d directory project.root p l := by
  obtain ⟨p, hp, hload⟩ := ofDirectory_eq_some h
  obtain ⟨⟨name, hname, hdiv⟩, l, content, hfile⟩ := find?_eq_some hp
  obtain ⟨hnull, hpath, -⟩ := load_eq_ok hload
  obtain ⟨hparts, hplain⟩ := div_eq (directory.getD d.currentPath) hname
  have hroot : project.root = ⟨.root, l.dropLast⟩ := by
    have hr := (hd.resolve_of_find hnull hfile).symm.trans hpath
    rw [Project.root, ← Except.ok.inj hr]
    rfl
  refine ⟨p, l, hp, ⟨content, hfile⟩, hroot, fun hl => ?_⟩
  rw [hdiv, hparts] at hfile hl hnull
  obtain ⟨k, hk, rfl⟩ := find_last hd hplain hfile hl
  have hnull' : hasNull (directory.getD d.currentPath) = false := by
    rw [hasNull, List.any_append, Bool.or_eq_false_iff] at hnull
    exact hnull.1
  rw [hd.resolve_of_find hnull' hk, hroot, List.dropLast_concat]
  rfl

end Scaffold.Project
