import Scaffold.Proofs.Files.Output
import Scaffold.Proofs.Files.Path

/-! # Reading what was written

A file that is put where a path leads is found there by the same path, whatever links are on the
way: they are not at the place of the file, so they stay. What an output wrote is therefore read
back under the path that was told of it.
-/

namespace Scaffold

namespace Disk

variable {d : Disk} {links : Nat} {place l : Location} {names : List String} {p : Path}
  {r : Except SystemError Spot}

/-- Whether there is room for a file: nothing is there, or a file that it takes the place of. -/
def Room (d : Disk) (l : Location) : Prop :=
  l ≠ [] ∧ (d.entry? l = none ∨ ∃ content, d.entry? l = some (.file content))

theorem Room.ne_of_entry {k : Location} {e : Entry} (h : d.Room l) (he : d.entry? k = some e)
    (hf : ∀ content, e ≠ .file content) : k ≠ l := by
  rintro rfl
  rcases h.2 with hn | ⟨content, hc⟩
  · cases hn.symm.trans he
  · exact hf content (Option.some.inj (he.symm.trans hc))

/-- What is not a file stays when a file is put where there is room for it. -/
theorem Room.entry?_put {k : Location} {e : Entry} (h : d.Room l) (he : d.entry? k = some e)
    (hf : ∀ content, e ≠ .file content) (content : List UInt8) :
    entry? (d.put l (.file content)) k = some e := by
  rw [entry?_put_of_ne h.1 (h.ne_of_entry he hf), he]

theorem Room.directory_put {k : Location} (h : d.Room l) (he : d.entry? k = some .directory)
    (content : List UInt8) : entry? (d.put l (.file content)) k = some .directory :=
  h.entry?_put he (by simp) content

theorem Room.exists_entry?_put {k : Location} {e : Entry} (h : d.Room l)
    (he : d.entry? k = some e) (hl : ∀ target, e ≠ .link target) (content : List UInt8) :
    ∃ e', entry? (d.put l (.file content)) k = some e' ∧ ∀ target, e' ≠ .link target := by
  by_cases hk : k = l
  · rw [hk]
    exact ⟨_, entry?_put_self h.1, by simp⟩
  · exact ⟨e, by rw [entry?_put_of_ne h.1 hk, he], hl⟩

/-- Where a walk led, a file that is put there is found by the same walk. -/
theorem Walks.put_file (hroom : d.Room l) (content : List UInt8)
    (h : Walks d true links place names r)
    (hr : r = .ok (.vacant l) ∨ ∃ e, r = .ok (.found l e)) :
    Walks (d.put l (.file content)) true links place names (.ok (.found l (.file content))) := by
  induction h with
  | @arrive links place e he =>
    have hl : place = l := by simpa [he] using hr
    subst hl
    exact .arrive (entry?_put_self hroom.1)
  | stay h _ ih => exact .stay (hroom.directory_put h content) (ih hr)
  | up h _ ih => exact .up (hroom.directory_put h content) (ih hr)
  | @vacant links place name h hn _ =>
    have he : place ++ [name] = l := by simpa using hr
    subst he
    have hself : entry? (d.put (place ++ [name]) (.file content)) (place ++ [name]) =
        some (.file content) := entry?_put_self hroom.1
    exact .enter (hroom.directory_put h content) hn hself (by simp) (.arrive hself)
  | enter h hn he hl _ ih =>
    obtain ⟨e', he', hl'⟩ := hroom.exists_entry?_put he hl content
    exact .enter (hroom.directory_put h content) hn he' hl' (ih hr)
  | halt _ _ _ hf => cases hf
  | jump h hn he hf _ ih =>
    exact .jump (hroom.directory_put h content) hn (hroom.entry?_put he (by simp) content) hf
      (ih hr)
  | _ => simp at hr

theorem readFile_put (hs : d.find p = .ok (.vacant l) ∨ ∃ c, d.find p = .ok (.found l (.file c)))
    (content : List UInt8) : readFile (d.put l (.file content)) p = .ok content := by
  have hroom : d.Room l := by
    rcases hs with h | ⟨c, h⟩
    · obtain ⟨k, name, rfl, -, -, he⟩ := (walk_eq_iff.mp h).vacant_spot l rfl
      exact ⟨by simp, Or.inl he⟩
    · have he := (walk_eq_iff.mp h).entry?_found l _ rfl
      refine ⟨?_, Or.inr ⟨c, he⟩⟩
      rintro rfl
      cases he
  have hw : Walks d true maxLinks (d.start p) p.parts (d.find p) := walks_walk _ _ _ _ _
  have hfind : find (d.put l (.file content)) p = .ok (.found l (.file content)) :=
    (hw.put_file hroom content (hs.imp_right fun ⟨c, h⟩ => ⟨_, h⟩)).walk_eq
  rw [readFile, hfind]

end Disk

namespace Output

open Disk

variable {d : Disk} {path : String} {p : Path}

theorem resolve_of_locate (hd : d.WellFormed)
    (h : locate d (Path.ofString path).text none = .ok p) :
    d.resolve (d.currentPath.join (.ofString path)) = .ok p := by
  obtain ⟨b, hb, hp, -⟩ := locate_eq_ok.mp h
  obtain rfl : b = d.currentPath := hd.resolve_directory hd.current hb
  rwa [Path.ofString_text_ofString] at hp

end Output

end Scaffold
