import Scaffold.Files.Output
import Scaffold.Proofs.Fallible
import Scaffold.Proofs.Files.Action
import Scaffold.Proofs.Text.Charset

/-! # Where output goes

An output that fails leaves the disk alone, unless its text has no bytes, in which case an empty
file is left behind. One that succeeds is written to the location that its path names, and to no
other, exactly when no link lies on the way to it; links are what is left in a path when it could
not be resolved because of a link that leads back to itself.
-/

namespace Scaffold.Disk

/-- Whether no link that leads back to itself is met when a path is resolved. -/
def Resolvable (d : Disk) (p : Path) : Prop := ∃ l, d.resolution p = .place l

def Below (b l : Location) : Prop := b <+: l ∧ l ≠ b

instance (b l : Location) : Decidable (Below b l) := inferInstanceAs (Decidable (_ ∧ _))

end Scaffold.Disk

namespace Scaffold.Output

open Scaffold.Disk Scaffold.Action Scaffold.Text

variable {d d' d'' : Disk} {written : String} {text : List Point} {base : Option Path} {p q : Path}
  {l : Location} {content : List UInt8}

theorem effect_write (written : String) (text : List Point) (base : Option Path) (d : Disk) :
    effect (write written text base) d =
      match target d written base with
      | .error f => (.error f, d)
      | .ok p =>
        match effect (ensureDirectories p.parent) d with
        | (.error f, d') => (.error f, d')
        | (.ok _, d') =>
          match effect (writeText p text) d' with
          | (.error f, d'') => (.error f, d'')
          | (.ok _, d'') => (.ok p, d'') := by
  have hg : effect (get : Action Disk) d = (.ok d, d) := rfl
  have hl : effect (liftM (target d written base) : Action Path) d =
      (target d written base, d) := by
    cases target d written base <;> rfl
  simp only [write, effect_bind, hg, hl]
  cases target d written base with
  | error f => rfl
  | ok p =>
    dsimp only
    rcases effect (ensureDirectories p.parent) d with ⟨_ | _, d'⟩
    · rfl
    · dsimp only
      rcases effect (writeText p text) d' with ⟨_ | _, d''⟩ <;> rfl

theorem locate_eq_ok : locate d written base = .ok p ↔
    ∃ b, d.resolve (base.getD d.currentPath) = .ok b ∧
      d.resolve (b.join (.ofString written)) = .ok p ∧ p.isWithin b = true := by
  rw [locate, bind_eq_ok]
  refine exists_congr fun b => and_congr_right fun _ => ?_
  rw [bind_eq_ok]
  constructor
  · rintro ⟨t, ht, h⟩
    split at h
    · cases h
      exact ⟨ht, ‹_›⟩
    · cases h
  · rintro ⟨ht, hw⟩
    exact ⟨p, ht, if_pos hw⟩

theorem target_eq_ok : target d written base = .ok p ↔
    d.probe (base.getD d.currentPath) = .ok () ∧
      (∃ b, d.resolve (base.getD d.currentPath) = .ok b ∧
        d.probe (b.join (.ofString written)) = .ok ()) ∧
      locate d written base = .ok p := by
  rw [target, check_bind_eq_ok, bind_eq_ok]
  simp only [check_bind_eq_ok, ← and_assoc, exists_and_right]

/-- What an output is refused for. -/
def Refuses (written : String) (f : Failure) : Prop :=
  (∃ e, f = .fault e) ∨ f = .complaint (.outsideBase written)

theorem refuses_fault (e : Fault) : Refuses written (.fault e) := Or.inl ⟨e, rfl⟩

theorem refuses_resolve (p : Path) : FailsOnly (Refuses written) (d.resolve p) := by
  rw [resolve]
  split
  · exact failsOnly_error (refuses_fault _)
  · split
    · exact failsOnly_error (refuses_fault _)
    · exact failsOnly_ok _

theorem refuses_probe (p : Path) : FailsOnly (Refuses written) (d.probe p) := by
  rw [probe]
  split
  · exact failsOnly_error (refuses_fault _)
  · exact failsOnly_ok _

theorem refuses_locate : FailsOnly (Refuses written) (locate d written base) := by
  refine (refuses_resolve _).bind fun b _ => (refuses_resolve _).bind fun p _ => ?_
  exact FailsOnly.ite (failsOnly_ok _) (failsOnly_error (Or.inr rfl))

theorem refuses_target : FailsOnly (Refuses written) (target d written base) :=
  (refuses_probe _).bind fun _ _ => (refuses_resolve _).bind fun _ _ =>
    (refuses_probe _).bind fun _ _ => refuses_locate

/-- An output outside of the base is refused with a complaint; all else that can go wrong is a
fault. -/
theorem write_eq_error {f : Failure} (h : effect (write written text base) d = (.error f, d')) :
    Refuses written f := by
  rw [effect_write] at h
  split at h
  · rename_i f' ht
    cases h
    exact refuses_target _ ht
  · rename_i p _
    have hd := faulty_ensureDirectories p.parent d
    generalize effect (ensureDirectories p.parent) d = r at h hd
    rcases r with ⟨_ | _, d₁⟩
    · cases h
      exact Or.inl (hd _ rfl)
    · have hw := faulty_writeText p text d₁
      dsimp only at h
      generalize effect (writeText p text) d₁ = r at h hw
      rcases r with ⟨_ | _, d₂⟩
      · cases h
        exact Or.inl (hw _ rfl)
      · cases h

/-- The content is stored at a location, and nothing else changes but that directories appear where
nothing was. -/
structure Stores (d : Disk) (l : Location) (content : List UInt8) (d' : Disk) : Prop where
  wellFormed : d'.WellFormed
  holds : d'.entry? l = some (.file content)
  elsewhere : ∀ k, k ≠ l → d'.entry? k = d.entry? k ∨
    d.entry? k = none ∧ d'.entry? k = some .directory
  links : ∀ k, d'.link? k = d.link? k
  current : d'.current = d.current
  host : d'.host = d.host
  again : d'.put l (.file content) = d'

/-- A path leads to a vacant name or to a file, on a disk that has the directories above it. -/
structure Opens (d : Disk) (p : Path) (l : Location) (d' : Disk) : Prop where
  wellFormed : d'.WellFormed
  grows : Grows d d'
  spot : d'.find p = .ok (.vacant l) ∨ ∃ c, d'.find p = .ok (.found l (.file c))

namespace Opens

variable (ho : Opens d p l d')
include ho

theorem stores (content : List UInt8) : Stores d l content (d'.put l (.file content)) := by
  obtain ⟨hd, hg, hs⟩ := ho
  obtain ⟨k, name, rfl, hk, hn, he⟩ : ∃ k name, l = k ++ [name] ∧ d'.entry? k = some .directory ∧
      IsPlain name ∧ (d'.entry? l = none ∨ ∃ c, d'.entry? l = some (.file c)) := by
    rcases hs with h | ⟨c, h⟩
    · obtain ⟨k, name, hl, hk, hn, he⟩ := (walk_eq_iff.mp h).vacant_spot l rfl
      exact ⟨k, name, hl, hk, hn, Or.inl he⟩
    · have he := (walk_eq_iff.mp h).entry?_found l _ rfl
      rcases List.eq_nil_or_concat l with rfl | ⟨k, name, rfl⟩
      · cases he
      · rw [List.concat_eq_append] at he ⊢
        exact ⟨k, name, rfl, hd.parent k name _ he, hd.plain k name _ he, Or.inr ⟨c, he⟩⟩
  have hne : k ++ [name] ≠ [] := by simp
  have hdir : d'.entry? (k ++ [name]) ≠ some .directory := by
    rcases he with he | ⟨c, he⟩ <;> simp [he]
  refine ⟨hd.put hk hn (Or.inr hdir), entry?_put_self hne, fun j hj => ?_, fun j => ?_,
    hg.current, hg.host, put_put d' _ _⟩
  · rw [entry?_put_of_ne hne hj]
    exact hg.entry?_eq j
  · rw [← hg.link?_eq j]
    by_cases hj : j = k ++ [name]
    · rw [hj, link?, link?, entry?_put_self hne]
      rcases he with he | ⟨c, he⟩ <;> rw [he]
    · rw [link?, link?, entry?_put_of_ne hne hj]

theorem effect_writeFile (content : List UInt8) :
    effect (writeFile p content) d' = (.ok (), d'.put l (.file content)) := by
  rcases ho.spot with hs | ⟨c, hs⟩ <;> rw [Action.effect_writeFile, hs]

end Opens

/-- What comes of writing an output: the disk is left alone, or the output is stored where its path
leads. If its text has no bytes an empty file is stored, and writing it fails after that. -/
inductive Wrote (d : Disk) (written : String) (base : Option Path) (text : List Point) :
    Except Failure Path × Disk → Prop
  | failed {f : Failure} : Wrote d written base text (.error f, d)
  | stored {p : Path} {l : Location} {d' : Disk} {content : List UInt8}
      (ht : target d written base = .ok p) (hc : encode text = .ok content)
      (ho : Opens d p l d') : Wrote d written base text (.ok p, d'.put l (.file content))
  | emptied {p : Path} {l : Location} {d' : Disk} {u : Unencodable}
      (ht : target d written base = .ok p) (hc : encode text = .error u) (ho : Opens d p l d') :
      Wrote d written base text (.error (.fault (.unencodable u)), d'.put l (.file []))

theorem plain_of_locate (hd : d.WellFormed) (h : locate d written base = .ok p) :
    p.anchor ≠ .relative ∧ ∀ n ∈ p.parts, IsPlain n := by
  obtain ⟨b, -, hp, -⟩ := locate_eq_ok.mp h
  obtain ⟨-, rfl, -⟩ := resolve_eq_ok.mp hp
  exact ⟨anchor_resolved d _, hd.plain_resolved _⟩

theorem find_not_link (hd : d.WellFormed) (target : String) :
    d.find p ≠ .ok (.found l (.link target)) := by
  have hw := walks_walk d true maxLinks (d.start p) p.parts
  exact hw.not_link hd (by simp [hd.entry?_start p]) l target

theorem Opens.wrote (ho : Opens d p l d') (ht : target d written base = .ok p) :
    Wrote d written base text
      (match effect (writeText p text) d' with
        | (.error f, d'') => (.error f, d'')
        | (.ok _, d'') => (.ok p, d'')) := by
  cases hc : encode text with
  | ok content =>
    rw [effect_writeText_ok hc, ho.effect_writeFile]
    exact .stored ht hc ho
  | error u =>
    rw [effect_writeText_error hc, ho.effect_writeFile]
    exact .emptied ht hc ho

theorem effect_writeText_failed {f : Failure}
    (h : ∀ content, effect (writeFile p content) d = (.error f, d)) :
    effect (writeText p text) d = (.error f, d) := by
  cases hc : encode text with
  | ok content => rw [effect_writeText_ok hc, h]
  | error u => rw [effect_writeText_error hc, h]

theorem wrote_write (hd : d.WellFormed) (written : String) (text : List Point)
    (base : Option Path) : Wrote d written base text (effect (write written text base) d) := by
  rw [effect_write]
  cases ht : target d written base with
  | error f => exact .failed
  | ok p =>
    obtain ⟨-, -, hl⟩ := target_eq_ok.mp ht
    obtain ⟨-, hn⟩ := plain_of_locate hd hl
    have hm : Made d p.parent (effect (ensureDirectories p.parent) d) :=
      made_ensureDirectories hd fun n h => hn n (List.dropLast_subset _ h)
    dsimp only
    generalize effect (ensureDirectories p.parent) d = r at hm ⊢
    cases hm with
    | failed => exact .failed
    | kept h =>
      dsimp only
      match hf : d.find p with
      | .ok (.found _ .directory) =>
        rw [effect_writeText_failed fun content => by rw [effect_writeFile, hf]]
        exact .failed
      | .ok (.found _ (.file c)) => exact Opens.wrote ⟨hd, .refl d, Or.inr ⟨c, hf⟩⟩ ht
      | .ok (.found _ (.link t)) => exact absurd hf (find_not_link hd t)
      | .ok (.vacant _) => exact Opens.wrote ⟨hd, .refl d, Or.inl hf⟩ ht
      | .error _ =>
        rw [effect_writeText_failed fun content => by rw [effect_writeFile, hf]]
        exact .failed
    | @made k d' hv hd' hg h hb =>
      rcases List.eq_nil_or_concat p.parts with hp | ⟨init, name, hp⟩
      · have hs : d.find p.parent = .ok (.found (d.start p.parent) .directory) := by
          rw [Disk.find, Path.parent, hp]
          exact (Walks.arrive (hd.entry?_start _)).walk_eq
        exact absurd hs (hv _ _)
      · rw [List.concat_eq_append] at hp
        have hf : d'.find p = .ok (.vacant (k ++ [name])) := by
          have hpar : p.parent = ⟨p.anchor, init⟩ := by rw [Path.parent, hp, List.dropLast_concat]
          rw [hpar] at h
          have hlast := hd'.walk_last (by simp [hd'.entry?_start]) h (hn name (by simp [hp]))
            (by simp [hb]) true
          simp only [after, hb] at hlast
          rw [Disk.find, hp]
          exact hlast
        exact Opens.wrote ⟨hd', hg, Or.inl hf⟩ ht

theorem isWithin_iff : p.isWithin q = true ↔ p.anchor = q.anchor ∧ q.parts <+: p.parts := by
  simp [Path.isWithin]

/-- An output was stored where its path says: no link is on the way, nothing else was changed, and
writing it again changes nothing. -/
structure Confined (d : Disk) (written : String) (text : List Point) (base : Option Path) (p : Path)
    (content : List UInt8) (d' : Disk) : Prop where
  linkFree : d'.LinkFree p.parts
  stores : Stores d p.parts content d'
  again : effect (write written text base) d' = (.ok p, d')

theorem again_of_stores (hd : d.WellFormed) (ht : target d written base = .ok p)
    (hc : encode text = .ok content) (hf : d.LinkFree p.parts)
    (hs : Stores d p.parts content d') :
    effect (write written text base) d' = (.ok p, d') := by
  obtain ⟨hstart, ⟨b, hb, hprobe⟩, hl⟩ := target_eq_ok.mp ht
  obtain ⟨b', hb', hp, hw⟩ := locate_eq_ok.mp hl
  cases hb.symm.trans hb'
  obtain ⟨hroot, -⟩ := plain_of_locate hd hl
  have hbf : d.LinkFree b.parts := hf.of_prefix (isWithin_iff.mp hw).2
  have hcur : d'.currentPath = d.currentPath := by rw [currentPath, currentPath, hs.current]
  have hb' : d'.resolve (base.getD d'.currentPath) = .ok b := by
    rw [hcur]
    exact resolve_link? hs.links hs.current hd hbf hb
  have ht' : target d' written base = .ok p := by
    refine target_eq_ok.mpr ⟨?_, ⟨b, hb', ?_⟩, locate_eq_ok.mpr ⟨b, hb', ?_, hw⟩⟩
    · rw [hcur, probe_link? hs.links hs.current hs.host, hstart]
    · rw [probe_link? hs.links hs.current hs.host, hprobe]
    · exact resolve_link? hs.links hs.current hd hf hp
  have hf' : d'.LinkFree p.parts := (linkFree_congr hs.links).mpr hf
  have hfind : d'.find p = .ok (.found p.parts (.file content)) := by
    rw [Disk.find, start_of_anchor hroot]
    exact hs.wellFormed.walk_entry hs.holds hf'
  have hparent : d'.findLink p.parent = .ok (.found p.parts.dropLast .directory) := by
    rw [findLink, start_of_anchor (p := p.parent) hroot]
    exact hs.wellFormed.walk_entry (hs.wellFormed.dropLast hs.holds)
      (hf'.of_prefix (List.dropLast_prefix _))
  rw [effect_write, ht']
  simp only [effect_ensureDirectories_there hparent, effect_writeText_ok hc, effect_writeFile,
    hfind, hs.again]

theorem location_of_linkFree (hd : d.WellFormed) (hl : locate d written base = .ok p)
    (ho : Opens d p l d') (hf : d.LinkFree p.parts) : l = p.parts := by
  obtain ⟨hroot, hn⟩ := plain_of_locate hd hl
  have hw := walks_walk d' true maxLinks [] p.parts
  obtain ⟨hfound, hvacant, -⟩ := hw.linkFree ((linkFree_congr ho.grows.link?_eq).mpr hf) hn
  have hs := ho.spot
  rw [Disk.find, start_of_anchor hroot] at hs
  rcases hs with h | ⟨c, h⟩
  · exact hvacant l h
  · exact hfound l _ h

theorem linkFree_of_place {b : Path} (hd : d.WellFormed)
    (hp : d.resolve (b.join (.ofString written)) = .ok p)
    (hl : d.resolution (b.join (.ofString written)) = .place l) : d.LinkFree p.parts := by
  obtain ⟨-, rfl, -⟩ := resolve_eq_ok.mp hp
  rw [resolved_of_place hl]
  exact ((hd.settled_start _).resolveFrom hl).linkFree

/-- What is located in a directory lies in it, and has no link left on the way if it could be
resolved. -/
theorem within_of_locate (hd : d.WellFormed) {b : Location} (hb : d.entry? b = some .directory)
    (hbase : base.getD d.currentPath = ⟨.root, b⟩) (hl : locate d written base = .ok p) :
    p.isWithin ⟨.root, b⟩ = true ∧
      (d.Resolvable (Path.join ⟨.root, b⟩ (.ofString written)) → d.LinkFree p.parts) := by
  obtain ⟨b', hb', hp, hw⟩ := locate_eq_ok.mp hl
  rw [hbase] at hb'
  obtain rfl := hd.resolve_directory hb hb'
  exact ⟨hw, fun ⟨_, hk⟩ => linkFree_of_place hd hp hk⟩

theorem below_of_linkFree (hd : d.WellFormed) {b : Location} (hb : d.entry? b = some .directory)
    (hw : p.isWithin ⟨.root, b⟩ = true) (hl : locate d written base = .ok p)
    (hfree : d.LinkFree p.parts) (ho : Opens d p l d') : Below b l := by
  obtain rfl : l = p.parts := location_of_linkFree hd hl ho hfree
  refine ⟨(isWithin_iff.mp hw).2, ?_⟩
  rintro rfl
  have hdir := ho.grows.kept _ _ hb
  rcases ho.spot with hs | ⟨content, hs⟩
  · obtain ⟨_, _, _, _, _, hv⟩ := (walk_eq_iff.mp hs).vacant_spot _ rfl
    cases hdir.symm.trans hv
  · cases hdir.symm.trans ((walk_eq_iff.mp hs).entry?_found _ _ rfl)

/-- A failed output leaves the disk alone, unless its text has no bytes: then an empty file may be
left behind. One that succeeds lies in the base, and is confined exactly when its path has no link
on the way; if it has one, the output is stored elsewhere. Links are left only where a link that
leads back to itself was met. -/
theorem write_confined_iff (hd : d.WellFormed) (written : String) (text : List Point)
    (base : Option Path) :
    (∀ f d', effect (write written text base) d = (.error f, d') → d' = d ∨
      ∃ u p l, encode text = .error u ∧ f = .fault (.unencodable u) ∧
        locate d written base = .ok p ∧ Stores d l [] d' ∧ (d.LinkFree p.parts → l = p.parts)) ∧
    ∀ p d', effect (write written text base) d = (.ok p, d') →
      ∃ content b, encode text = .ok content ∧
        d.resolve (base.getD d.currentPath) = .ok b ∧ p.isWithin b = true ∧
        (Confined d written text base p content d' ↔ d.LinkFree p.parts) ∧
        (d'.entry? p.parts = some (.file content) ↔ d.LinkFree p.parts) ∧
        ∀ l, d.resolution (b.join (.ofString written)) = .place l → d.LinkFree p.parts := by
  have h := wrote_write hd written text base
  generalize effect (write written text base) d = r at h ⊢
  cases h with
  | failed =>
    refine ⟨fun f d' h => ?_, fun p d' h => ?_⟩
    · cases h
      exact Or.inl rfl
    · cases h
  | emptied ht hc ho =>
    refine ⟨fun f d' h => ?_, fun p d' h => ?_⟩
    · cases h
      have hl := (target_eq_ok.mp ht).2.2
      exact Or.inr ⟨_, _, _, hc, rfl, hl, ho.stores [], location_of_linkFree hd hl ho⟩
    · cases h
  | @stored q l d₁ content ht hc ho =>
    refine ⟨fun f d' h => ?_, fun p d' h => ?_⟩
    · cases h
    cases h
    have hl := (target_eq_ok.mp ht).2.2
    obtain ⟨b, hb, hp, hw⟩ := locate_eq_ok.mp hl
    have hst := ho.stores content
    have hfree (h : entry? (d₁.put l (.file content)) q.parts = some (.file content)) :
        d.LinkFree q.parts :=
      (linkFree_congr hst.links).mp (hst.wellFormed.settled_of_entry h (by simp)).linkFree
    have hloc (hf : d.LinkFree q.parts) : l = q.parts := location_of_linkFree hd hl ho hf
    refine ⟨content, b, hc, hb, hw, ⟨fun h => hfree h.stores.holds, fun hf => ?_⟩,
      ⟨hfree, fun hf => ?_⟩, fun k => linkFree_of_place hd hp⟩
    · have hst' : Stores d q.parts content (d₁.put l (.file content)) := hloc hf ▸ hst
      exact ⟨(linkFree_congr hst.links).mpr hf, hst', again_of_stores hd ht hc hf hst'⟩
    · rw [← hloc hf]
      exact hst.holds

/-- A disk with a link that leads back to itself and one that leads out of the project. -/
def loopDisk : Disk where
  entries := [(["other"], .directory), (["other", "secret"], .file [0x6F, 0x6C, 0x64]),
    (["project"], .directory), (["project", "loop"], .link "loop"),
    (["project", "link"], .link "../other/secret")]
  current := ["project"]

theorem wellFormed_loopDisk : loopDisk.WellFormed := .of_entries (by decide) (by decide)

theorem write_confined_iff_loopDisk : ∃ d', loopDisk.WellFormed ∧
    effect (write "lib/../out" "new" none) loopDisk = (.ok ⟨.root, ["project", "out"]⟩, d') ∧
    Confined loopDisk "lib/../out" "new" none ⟨.root, ["project", "out"]⟩ "new".toUTF8.toList
      d' := by
  have he : effect (write "lib/../out" "new" none) loopDisk = (.ok ⟨.root, ["project", "out"]⟩,
      loopDisk.put ["project", "out"] (.file "new".toUTF8.toList)) := rfl
  obtain ⟨-, h⟩ := write_confined_iff wellFormed_loopDisk "lib/../out" "new" none
  obtain ⟨content, b, hb, -, -, hc, -, -⟩ := h _ _ he
  cases hb.symm.trans (encode_coe "new")
  exact ⟨_, wellFormed_loopDisk, he, hc.mpr (by decide)⟩

/-- After a link that leads back to itself no link is resolved, and the one that comes next leads
the output out of the base. -/
theorem write_escapes : ∃ p d', loopDisk.WellFormed ∧
    effect (write "loop/../link" "new" none) loopDisk = (.ok p, d') ∧
    p.isWithin loopDisk.currentPath = true ∧ d'.link? p.parts = some "../other/secret" ∧
    loopDisk.entry? ["other", "secret"] = some (.file [0x6F, 0x6C, 0x64]) ∧
    d'.entry? ["other", "secret"] = some (.file [0x6E, 0x65, 0x77]) ∧
    ∀ content, ¬Confined loopDisk "loop/../link" "new" none p content d' := by
  have hb : "new".toUTF8.toList = [0x6E, 0x65, 0x77] := by decide +kernel
  have he : effect (write "loop/../link" "new" none) loopDisk =
      (.ok ⟨.root, ["project", "link"]⟩,
        loopDisk.put ["other", "secret"] (.file "new".toUTF8.toList)) := rfl
  rw [hb] at he
  refine ⟨_, _, wellFormed_loopDisk, he, by decide, by decide, by decide, by decide,
    fun content h => ?_⟩
  exact absurd (h.linkFree _ List.prefix_rfl) (by decide)

end Scaffold.Output
