import Scaffold.Files.Action
import Scaffold.Proofs.Fallible
import Scaffold.Proofs.Files.Resolve

/-! # What actions do to disks

Making a directory and those above it either fails and leaves the disk alone, or finds the directory
there, or leaves it behind new and empty. Nothing is made in vain.
-/

namespace Scaffold

open Disk

namespace Action

variable {α β : Type} {d d' : Disk} {p : Path} {l : Location} {name : String} {names : List String}
  {e : SystemError}

/-- How an action ends, and the disk that it leaves. -/
def effect (a : Action α) (d : Disk) : Except Failure α × Disk := a.run d

theorem effect_bind (a : Action α) (f : α → Action β) (d : Disk) :
    effect (a >>= f) d =
      match effect a d with
      | (.ok x, d') => effect (f x) d'
      | (.error e, d') => (.error e, d') := by
  change (match a.run d with
    | (r, d') => ExceptT.bindCont f r d' : Except Failure β × Disk) = _
  rw [effect]
  rcases a.run d with ⟨_ | _, d'⟩ <;> rfl

theorem effect_get (d : Disk) : effect (get : Action Disk) d = (.ok d, d) := rfl

theorem effect_ask (p : Path) (look : Disk → Path → Except SystemError α) (d : Disk) :
    effect (ask p look) d =
      (match look d p with
        | .ok x => .ok x
        | .error e => .error (.fault (.system e p.text)), d) := by
  rw [ask, effect_bind]
  change effect (match look d p with
    | .ok a => return a
    | .error e => fail e p) d = _
  cases look d p <;> rfl

theorem effect_makeDirectory_vacant (h : d.findLink p = .ok (.vacant l)) :
    effect (makeDirectory p) d = (.ok (), d.put l .directory) := by
  rw [makeDirectory, effect_bind, effect_ask, h]
  rfl

theorem effect_ensureDirectory_vacant (h : d.findLink p = .ok (.vacant l)) :
    effect (ensureDirectory p) d = (.ok (), d.put l .directory) := by
  have ht : directoryTrouble d p = none := by rw [directoryTrouble, h]
  simp only [ensureDirectory, effect_bind, effect_get, ht]
  exact effect_makeDirectory_vacant h

/-- What is in the way of a directory stays, and the directory may be there already. -/
theorem effect_ensureDirectory_taken (h : directoryTrouble d p = some e) (he : e ≠ .missing) :
    effect (ensureDirectory p) d =
      (if d.isDirectory p then .ok () else .error (.fault (.system e p.text)), d) := by
  simp only [ensureDirectory, effect_bind, effect_get, h]
  by_cases hd : d.isDirectory p = true
  · simp only [hd, if_true]
    rfl
  · simp only [hd]
    rfl

theorem effect_ensureDirectoriesAt_cons (anchor : Anchor) (name : String) (above : List String)
    (d : Disk) :
    effect (ensureDirectoriesAt anchor (name :: above)) d =
      if directoryTrouble d ⟨anchor, (name :: above).reverse⟩ = some .missing then
        match effect (ensureDirectoriesAt anchor above) d with
        | (.ok _, d') => effect (ensureDirectory ⟨anchor, (name :: above).reverse⟩) d'
        | (.error f, d') => (.error f, d')
      else effect (ensureDirectory ⟨anchor, (name :: above).reverse⟩) d := by
  rw [ensureDirectoriesAt, effect_bind]
  change effect (if directoryTrouble d ⟨anchor, (name :: above).reverse⟩ = some .missing then _
    else _) d = _
  split
  · rw [effect_bind]
    rcases effect (ensureDirectoriesAt anchor above) d with ⟨_ | _, d'⟩ <;> rfl
  · rfl

inductive Made (d : Disk) (p : Path) : Except Failure Unit × Disk → Prop
  | kept {l : Location} (h : d.find p = .ok (.found l .directory)) : Made d p (.ok (), d)
  | made {l : Location} {d' : Disk} (hv : ∀ l e, d.find p ≠ .ok (.found l e)) (hd : d'.WellFormed)
      (hg : Grows d d') (h : d'.find p = .ok (.found l .directory))
      (hb : ∀ name, d'.entry? (l ++ [name]) = none) : Made d p (.ok (), d')
  | failed {f : Failure} : Made d p (.error f, d)

theorem isDirectory_iff : d.isDirectory p = true ↔ ∃ l, d.find p = .ok (.found l .directory) := by
  rw [isDirectory]
  split
  · simp_all
  · rename_i h
    simp only [Bool.false_eq_true, false_iff, not_exists]
    exact h

theorem find_of_findLink {r : Except SystemError Spot} (h : d.findLink p = r)
    (hl : ∀ l t, r ≠ .ok (.found l (.link t))) : d.find p = r :=
  ((walk_eq_iff.mp h).followed hl).walk_eq

theorem directoryTrouble_eq_none : directoryTrouble d p = none ↔
    ∃ l, d.findLink p = .ok (.vacant l) := by
  rw [directoryTrouble]
  split <;> simp_all

theorem directoryTrouble_eq_missing : directoryTrouble d p = some .missing ↔
    d.findLink p = .error .missing := by
  rw [directoryTrouble]
  split <;> simp_all

theorem made_of_vacant (hv : ∀ l e, d.find p ≠ .ok (.found l e)) (hg : Grows d d')
    (hd : d'.WellFormed) (h : d'.findLink p = .ok (.vacant l)) :
    Made d p (effect (ensureDirectory p) d') := by
  rw [effect_ensureDirectory_vacant h]
  have hf : d'.find p = .ok (.vacant l) := find_of_findLink h (by simp)
  obtain ⟨k, name, rfl, hk, hn, he⟩ := (walk_eq_iff.mp hf).vacant_spot l rfl
  have hne : k ++ [name] ≠ [] := by simp
  have hp : Grows d' (d'.put (k ++ [name]) .directory) := .put_directory hne he
  refine .made (l := k ++ [name]) hv (hd.put hk hn (Or.inl rfl)) (hg.trans hp) ?_ fun x => ?_
  · have := hp.find hf
    simpa only [after, entry?_put_self hne] using this
  · rw [entry?_put_of_ne hne (by simp)]
    exact hd.vacant_below he x

theorem made_of_taken (h : directoryTrouble d p = some e) (he : e ≠ .missing) :
    Made d p (effect (ensureDirectory p) d) := by
  rw [effect_ensureDirectory_taken h he]
  split
  · rename_i hd
    obtain ⟨l, hl⟩ := isDirectory_iff.mp hd
    exact .kept hl
  · exact .failed

/-- Making a directory and those above it fails and leaves the disk alone, finds the directory
there, or leaves it behind new and empty. -/
theorem made_ensureDirectoriesAt (hd : d.WellFormed) (anchor : Anchor)
    (hn : ∀ n ∈ names, IsPlain n) :
    Made d ⟨anchor, names.reverse⟩ (effect (ensureDirectoriesAt anchor names) d) := by
  induction names with
  | nil =>
    have hf : d.findLink ⟨anchor, []⟩ = .ok (.found (d.start ⟨anchor, []⟩) .directory) :=
      (Walks.arrive (hd.entry?_start _)).walk_eq
    refine made_of_taken (e := .present) ?_ (by simp)
    rw [List.reverse_nil, directoryTrouble, hf]
  | cons name above ih =>
    obtain ⟨hname, habove⟩ := List.forall_mem_cons.mp hn
    rw [effect_ensureDirectoriesAt_cons]
    split
    · rename_i hm
      rw [directoryTrouble_eq_missing] at hm
      have hv : d.find ⟨anchor, (name :: above).reverse⟩ = .error .missing :=
        find_of_findLink hm (by simp)
      have hparent := ih habove
      generalize effect (ensureDirectoriesAt anchor above) d = r at hparent ⊢
      cases hparent with
      | kept h =>
        -- A name in a directory is never missing its way.
        obtain ⟨s, hs⟩ := hd.walk_last_ok (by simp [hd.entry?_start]) h hname
        rw [List.reverse_cons] at hm
        cases hm.symm.trans hs
      | @made l d' hv' hd' hg h hb =>
        have hlast := hd'.walk_last (by simp [hd'.entry?_start]) h hname (by simp [hb]) false
        simp only [after, hb] at hlast
        rw [List.reverse_cons] at hv ⊢
        exact made_of_vacant (by simp [hv]) hg hd' hlast
      | failed => exact .failed
    · rename_i hm
      cases ht : directoryTrouble d ⟨anchor, (name :: above).reverse⟩ with
      | none =>
        obtain ⟨l, hl⟩ := directoryTrouble_eq_none.mp ht
        have hv := find_of_findLink hl (by simp)
        exact made_of_vacant (fun l e he => by cases hv.symm.trans he) (.refl d) hd hl
      | some e => exact made_of_taken ht fun he => hm (he ▸ ht)

theorem made_ensureDirectories (hd : d.WellFormed) (hn : ∀ n ∈ p.parts, IsPlain n) :
    Made d p (effect (ensureDirectories p) d) := by
  have hr : ∀ n ∈ p.parts.reverse, IsPlain n := by simpa using hn
  have := made_ensureDirectoriesAt hd p.anchor hr
  rwa [List.reverse_reverse] at this

theorem effect_ensureDirectories_there (h : d.findLink p = .ok (.found l .directory)) :
    effect (ensureDirectories p) d = (.ok (), d) := by
  have ht : directoryTrouble d p = some .present := by rw [directoryTrouble, h]
  have hd : d.isDirectory p = true := isDirectory_iff.mpr ⟨l, find_of_findLink h (by simp)⟩
  have he : effect (ensureDirectory p) d = (.ok (), d) := by
    rw [effect_ensureDirectory_taken ht (by simp), if_pos hd]
  obtain ⟨anchor, parts⟩ := p
  rw [ensureDirectories]
  rcases hp : parts.reverse with _ | ⟨name, above⟩
  · rw [List.reverse_eq_nil_iff.mp hp] at he ⊢
    exact he
  · have hr : (name :: above).reverse = parts := by rw [← hp, List.reverse_reverse]
    rw [effect_ensureDirectoriesAt_cons, hr, if_neg (by simp [ht]), he]

theorem effect_writeFile (p : Path) (content : List UInt8) (d : Disk) :
    effect (writeFile p content) d =
      match d.find p with
      | .ok (.found _ .directory) => (.error (.fault (.system .isADirectory p.text)), d)
      | .ok (.found l _) => (.ok (), d.put l (.file content))
      | .ok (.vacant l) => (.ok (), d.put l (.file content))
      | .error e => (.error (.fault (.system e p.text)), d) := by
  rw [writeFile, effect_bind, effect_ask]
  match d.find p with
  | .ok (.found _ .directory) => rfl
  | .ok (.found _ (.file _)) => rfl
  | .ok (.found _ (.link _)) => rfl
  | .ok (.vacant _) => rfl
  | .error _ => rfl

theorem effect_writeText_ok {text : List Text.Point} {content : List UInt8}
    (h : Text.encode text = .ok content) :
    effect (writeText p text) d = effect (writeFile p content) d := by
  rw [writeText, h]

theorem effect_writeText_error {text : List Text.Point} {u : Text.Unencodable}
    (h : Text.encode text = .error u) :
    effect (writeText p text) d =
      match effect (writeFile p []) d with
      | (.ok _, d') => (.error (.fault (.unencodable u)), d')
      | (.error f, d') => (.error f, d') := by
  rw [writeText, h]
  dsimp only
  rw [effect_bind]
  rcases effect (writeFile p []) d with ⟨_ | _, d'⟩ <;> rfl

def Faulty (a : Action α) : Prop := ∀ d, FailsOnly (fun f => ∃ e, f = .fault e) (effect a d).1

theorem Faulty.bind {a : Action α} {f : α → Action β} (ha : Faulty a) (hf : ∀ x, Faulty (f x)) :
    Faulty (a >>= f) := by
  intro d
  have h := ha d
  rw [effect_bind]
  generalize effect a d = r at h ⊢
  rcases r with ⟨_ | x, d'⟩
  · rintro g ⟨⟩
    exact h _ rfl
  · exact hf x d'

theorem faulty_fail (e : SystemError) (p : Path) : Faulty (fail e p : Action α) :=
  fun _ => failsOnly_error ⟨_, rfl⟩

theorem faulty_pure (a : α) : Faulty (pure a : Action α) := fun _ => failsOnly_ok _

theorem faulty_get : Faulty (get : Action Disk) := fun _ => failsOnly_ok _

theorem faulty_modify (f : Disk → Disk) : Faulty (modify f : Action PUnit) :=
  fun _ => failsOnly_ok _

theorem faulty_ask (p : Path) (look : Disk → Path → Except SystemError α) :
    Faulty (ask p look) := by
  intro d
  rw [effect_ask]
  split
  · exact failsOnly_ok _
  · exact failsOnly_error ⟨_, rfl⟩

theorem faulty_ensureDirectory (p : Path) : Faulty (ensureDirectory p) := by
  refine faulty_get.bind fun d => ?_
  split
  · refine (faulty_ask p _).bind fun s => ?_
    cases s with
    | found => exact faulty_fail _ _
    | vacant => exact faulty_modify _
  · exact faulty_fail _ _
  · split
    · exact faulty_pure _
    · exact faulty_fail _ _

theorem faulty_ensureDirectories (p : Path) : Faulty (ensureDirectories p) := by
  rw [ensureDirectories]
  generalize p.parts.reverse = names
  induction names with
  | nil => exact faulty_ensureDirectory _
  | cons name above ih =>
    intro d
    rw [effect_ensureDirectoriesAt_cons]
    split
    · have h := ih d
      generalize effect (ensureDirectoriesAt p.anchor above) d = r at h ⊢
      rcases r with ⟨_ | _, d'⟩
      · rintro g ⟨⟩
        exact h _ rfl
      · exact faulty_ensureDirectory _ d'
    · exact faulty_ensureDirectory _ d

theorem faulty_writeFile (p : Path) (content : List UInt8) : Faulty (writeFile p content) := by
  refine (faulty_ask p _).bind fun s => ?_
  match s with
  | .found _ .directory => exact faulty_fail _ _
  | .found _ (.file _) => exact faulty_modify _
  | .found _ (.link _) => exact faulty_modify _
  | .vacant _ => exact faulty_modify _

theorem faulty_writeText (p : Path) (text : List Text.Point) : Faulty (writeText p text) := by
  rw [writeText]
  split
  · exact faulty_writeFile p _
  · exact (faulty_writeFile p []).bind fun _ _ => failsOnly_error ⟨_, rfl⟩

end Action

end Scaffold
