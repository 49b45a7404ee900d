import Mathlib.Data.List.Infix
import Scaffold.Proofs.Files.Disk

/-! # Walks

The rules by which a path is looked up, one for each thing that can be met on the way. From them
follow how a walk goes on when names are added to its path, and how it ends on a disk that has
grown.
-/

namespace Scaffold.Disk

/-- How the names of a path lead from a place over at most so many links. -/
inductive Walks (d : Disk) (follow : Bool) :
    Nat → Location → List String → Except SystemError Spot → Prop
  | arrive {links : Nat} {place : Location} {e : Entry} (h : d.entry? place = some e) :
      Walks d follow links place [] (.ok (.found place e))
  | nowhere {links : Nat} {place : Location} (h : d.entry? place = none) :
      Walks d follow links place [] (.error .missing)
  | blocked {links : Nat} {place : Location} {name : String} {rest : List String}
      (h : d.entry? place ≠ some .directory) :
      Walks d follow links place (name :: rest) (.error .notADirectory)
  | stay {links : Nat} {place : Location} {rest : List String} {r : Except SystemError Spot}
      (h : d.entry? place = some .directory) (hr : Walks d follow links place rest r) :
      Walks d follow links place ("." :: rest) r
  | up {links : Nat} {place : Location} {rest : List String} {r : Except SystemError Spot}
      (h : d.entry? place = some .directory) (hr : Walks d follow links place.dropLast rest r) :
      Walks d follow links place (".." :: rest) r
  | vacant {links : Nat} {place : Location} {name : String}
      (h : d.entry? place = some .directory) (hn : IsPlain name)
      (he : d.entry? (place ++ [name]) = none) :
      Walks d follow links place [name] (.ok (.vacant (place ++ [name])))
  | missing {links : Nat} {place : Location} {name : String} {rest : List String}
      (h : d.entry? place = some .directory) (hn : IsPlain name)
      (he : d.entry? (place ++ [name]) = none) (hr : rest ≠ []) :
      Walks d follow links place (name :: rest) (.error .missing)
  | enter {links : Nat} {place : Location} {name : String} {rest : List String} {e : Entry}
      {r : Except SystemError Spot} (h : d.entry? place = some .directory) (hn : IsPlain name)
      (he : d.entry? (place ++ [name]) = some e) (hl : ∀ target, e ≠ .link target)
      (hr : Walks d follow links (place ++ [name]) rest r) :
      Walks d follow links place (name :: rest) r
  | halt {links : Nat} {place : Location} {name target : String}
      (h : d.entry? place = some .directory) (hn : IsPlain name)
      (he : d.entry? (place ++ [name]) = some (.link target)) (hf : follow = false) :
      Walks d follow links place [name] (.ok (.found (place ++ [name]) (.link target)))
  | jump {links : Nat} {place : Location} {name target : String} {rest : List String}
      {r : Except SystemError Spot} (h : d.entry? place = some .directory) (hn : IsPlain name)
      (he : d.entry? (place ++ [name]) = some (.link target)) (hf : rest ≠ [] ∨ follow = true)
      (hr : Walks d follow links (linkStart place target) (linkParts target ++ rest) r) :
      Walks d follow (links + 1) place (name :: rest) r
  | tired {place : Location} {name target : String} {rest : List String}
      (h : d.entry? place = some .directory) (hn : IsPlain name)
      (he : d.entry? (place ++ [name]) = some (.link target)) (hf : rest ≠ [] ∨ follow = true) :
      Walks d follow 0 place (name :: rest) (.error .tooManyLinks)

variable {d d' : Disk} {follow : Bool} {links : Nat} {place l : Location} {names rest : List String}
  {name : String} {e : Entry} {r : Except SystemError Spot}

theorem walksWith {jump : Location → List String → Except SystemError Spot}
    (hj : ∀ place name target rest, d.entry? place = some .directory → IsPlain name →
      d.entry? (place ++ [name]) = some (.link target) → (rest ≠ [] ∨ follow = true) →
      Walks d follow links place (name :: rest)
        (jump (linkStart place target) (linkParts target ++ rest)))
    (place : Location) (names : List String) :
    Walks d follow links place names (d.walkWith follow jump place names) := by
  induction names generalizing place with
  | nil =>
    rw [walkWith]
    split
    · exact .arrive ‹_›
    · exact .nowhere ‹_›
  | cons name rest ih =>
    rw [walkWith]
    split
    · exact .blocked ‹_›
    rename_i hp
    rw [Classical.not_not] at hp
    split
    · rename_i hn
      exact hn ▸ .stay hp (ih place)
    split
    · rename_i hn
      exact hn ▸ .up hp (ih place.dropLast)
    rename_i hdot hdots
    have hn : IsPlain name := ⟨hdot, hdots⟩
    split
    · split
      · rename_i he hr
        subst hr
        exact .vacant hp hn he
      · exact .missing hp hn ‹_› ‹_›
    · split
      · rename_i he hr
        obtain ⟨rfl, hf⟩ := hr
        exact .halt hp hn he (by simpa using hf)
      · rename_i he hr
        refine hj place name _ rest hp hn he ?_
        simpa [imp_iff_not_or] using hr
    · rename_i e hl he
      exact .enter hp hn he hl (ih _)

theorem walks_walk (d : Disk) (follow : Bool) (links : Nat) (place : Location)
    (names : List String) : Walks d follow links place names (d.walk follow links place names) := by
  induction links generalizing place names with
  | zero =>
    rw [walk]
    exact walksWith (fun _ _ _ _ hp hn he hf => .tired hp hn he hf) place names
  | succ links ih =>
    rw [walk]
    exact walksWith (fun _ _ _ _ hp hn he hf => .jump hp hn he hf (ih _ _)) place names

def onward (d : Disk) (follow : Bool) : Nat → Location → List String → Except SystemError Spot
  | 0 => fun _ _ => .error .tooManyLinks
  | links + 1 => d.walk follow links

theorem walk_eq_walkWith (d : Disk) (follow : Bool) (links : Nat) :
    d.walk follow links = d.walkWith follow (d.onward follow links) := by
  cases links <;> rfl

/-- A lookup stops at a link in its last place that it need not follow, and else goes on from it. -/
theorem walk_link {place : Location} {name target : String} {rest : List String}
    (h : d.entry? place = some .directory) (hn : IsPlain name)
    (he : d.entry? (place ++ [name]) = some (.link target)) :
    d.walk follow links place (name :: rest) =
      if rest = [] ∧ !follow then .ok (.found (place ++ [name]) (.link target))
      else d.onward follow links (linkStart place target) (linkParts target ++ rest) := by
  rw [walk_eq_walkWith, walkWith, if_neg (not_not.mpr h), if_neg hn.1, if_neg hn.2, he]

/-- The rules leave no choice. -/
theorem Walks.walk_eq (h : Walks d follow links place names r) :
    d.walk follow links place names = r := by
  induction h with
  | arrive h => rw [walk_eq_walkWith, walkWith, h]
  | nowhere h => rw [walk_eq_walkWith, walkWith, h]
  | blocked h => rw [walk_eq_walkWith, walkWith, if_pos h]
  | stay h hr ih =>
    rw [walk_eq_walkWith, walkWith, if_neg (not_not.mpr h), if_pos rfl, ← walk_eq_walkWith, ih]
  | up h hr ih =>
    rw [walk_eq_walkWith, walkWith, if_neg (not_not.mpr h), if_neg (by decide), if_pos rfl,
      ← walk_eq_walkWith, ih]
  | vacant h hn he =>
    rw [walk_eq_walkWith, walkWith, if_neg (not_not.mpr h), if_neg hn.1, if_neg hn.2, he]
    simp
  | missing h hn he hr =>
    rw [walk_eq_walkWith, walkWith, if_neg (not_not.mpr h), if_neg hn.1, if_neg hn.2, he]
    simp [hr]
  | enter h hn he hl hr ih =>
    rw [walk_eq_walkWith, walkWith, if_neg (not_not.mpr h), if_neg hn.1, if_neg hn.2, he,
      ← walk_eq_walkWith]
    split
    · simp_all
    · simp_all
    · exact ih
  | halt h hn he hf =>
    rw [walk_link h hn he, hf, if_pos ⟨rfl, rfl⟩]
  | jump h hn he hf hr ih =>
    rw [walk_link h hn he, if_neg (by simpa [imp_iff_not_or] using hf)]
    exact ih
  | tired h hn he hf =>
    rw [walk_link h hn he, if_neg (by simpa [imp_iff_not_or] using hf)]
    rfl

theorem walk_eq_iff : d.walk follow links place names = r ↔ Walks d follow links place names r :=
  ⟨fun h => h ▸ walks_walk d follow links place names, Walks.walk_eq⟩

theorem Walks.entry?_found (h : Walks d follow links place names r) :
    ∀ l e, r = .ok (.found l e) → d.entry? l = some e := by
  induction h with
  | arrive h =>
    rintro l e he
    cases he
    exact h
  | halt h hn he hf =>
    rintro l e hr
    cases hr
    exact he
  | stay _ _ ih => exact ih
  | up _ _ ih => exact ih
  | enter _ _ _ _ _ ih => exact ih
  | jump _ _ _ _ _ ih => exact ih
  | _ => rintro l e he; cases he

theorem Walks.vacant_spot (h : Walks d follow links place names r) :
    ∀ l, r = .ok (.vacant l) → ∃ k name, l = k ++ [name] ∧ d.entry? k = some .directory ∧
      IsPlain name ∧ d.entry? l = none := by
  induction h with
  | @vacant links place name h hn he =>
    rintro l hr
    cases hr
    exact ⟨place, name, rfl, h, hn, he⟩
  | stay _ _ ih => exact ih
  | up _ _ ih => exact ih
  | enter _ _ _ _ _ ih => exact ih
  | jump _ _ _ _ _ ih => exact ih
  | _ => rintro l he; cases he

theorem entry?_linkStart (h : d.entry? place = some .directory) (target : String) :
    d.entry? (linkStart place target) = some .directory := by
  rw [linkStart]
  split
  · rfl
  · exact h

theorem Walks.not_link (hd : d.WellFormed) (h : Walks d true links place names r)
    (hp : ∀ t, d.entry? place ≠ some (.link t)) :
    ∀ l t, r ≠ .ok (.found l (.link t)) := by
  induction h with
  | arrive h =>
    rintro l t he
    cases he
    exact hp t h
  | halt h hn he hf => cases hf
  | stay _ _ ih => exact ih hp
  | up h _ ih => exact ih (by simp [hd.dropLast h])
  | enter _ _ he hl _ ih => exact ih (by simpa [he] using hl)
  | @jump links place name target rest r h _ _ _ _ ih =>
    exact ih (by simp [entry?_linkStart h target])
  | _ => rintro l t he; cases he

/-- Whether links are followed at the end matters only where a link is found. -/
theorem Walks.followed (h : Walks d false links place names r)
    (hl : ∀ l t, r ≠ .ok (.found l (.link t))) : Walks d true links place names r := by
  induction h with
  | arrive h => exact .arrive h
  | nowhere h => exact .nowhere h
  | blocked h => exact .blocked h
  | stay h _ ih => exact .stay h (ih hl)
  | up h _ ih => exact .up h (ih hl)
  | vacant h hn he => exact .vacant h hn he
  | missing h hn he hr => exact .missing h hn he hr
  | enter h hn he hk _ ih => exact .enter h hn he hk (ih hl)
  | halt => exact absurd rfl (hl _ _)
  | jump h hn he _ _ ih => exact .jump h hn he (Or.inr rfl) (ih hl)
  | tired h hn he _ => exact .tired h hn he (Or.inr rfl)

/-- How more names go on after a walk that ended with `r`. -/
def GoesOn (d : Disk) (links : Nat) (place : Location) (names rest : List String) :
    Except SystemError Spot → Prop
  | .ok (.found l _) =>
    ∃ m ≤ links, ∀ follow, d.walk follow links place (names ++ rest) = d.walk follow m l rest
  | .ok (.vacant _) => ∀ follow, d.walk follow links place (names ++ rest) = .error .missing
  | .error e => ∀ follow, d.walk follow links place (names ++ rest) = .error e

theorem GoesOn.of_eq {links' : Nat} {place' : Location} {names' : List String}
    (h : GoesOn d links' place' names' rest r) (hl : links' ≤ links)
    (he : ∀ follow, d.walk follow links place (names ++ rest) =
      d.walk follow links' place' (names' ++ rest)) : GoesOn d links place names rest r := by
  match r, h with
  | .ok (.found l _), ⟨m, hm, h⟩ =>
    exact ⟨m, hm.trans hl, fun follow => (he follow).trans (h follow)⟩
  | .ok (.vacant _), h => exact fun follow => (he follow).trans (h follow)
  | .error e, h => exact fun follow => (he follow).trans (h follow)

/-- More names are looked up from where the walk has led, and in vain if it has not arrived. -/
theorem Walks.goesOn (hd : d.WellFormed) (h : Walks d true links place names r)
    (hp : d.entry? place ≠ none) (hr : rest ≠ []) : GoesOn d links place names rest r := by
  induction h with
  | @arrive links place e h => exact ⟨links, le_rfl, fun follow => rfl⟩
  | nowhere h => exact absurd h hp
  | blocked h => exact fun follow => (Walks.blocked h).walk_eq
  | stay h _ ih =>
    exact (ih hp).of_eq le_rfl fun follow => (Walks.stay h (walks_walk ..)).walk_eq
  | up h _ ih =>
    exact (ih (by simp [hd.dropLast h])).of_eq le_rfl fun follow =>
      (Walks.up h (walks_walk ..)).walk_eq
  | vacant h hn he => exact fun follow => (Walks.missing h hn he hr).walk_eq
  | missing h hn he _ => exact fun follow => (Walks.missing h hn he (by simp [hr])).walk_eq
  | enter h hn he hl _ ih =>
    exact (ih (by simp [he])).of_eq le_rfl fun follow =>
      (Walks.enter h hn he hl (walks_walk ..)).walk_eq
  | halt h hn he hf => cases hf
  | jump h hn he _ _ ih =>
    refine (ih (by simp [entry?_linkStart h])).of_eq (Nat.le_succ _) fun follow => ?_
    rw [List.append_assoc]
    exact (Walks.jump h hn he (Or.inl (by simp [hr])) (walks_walk ..)).walk_eq
  | tired h hn he _ => exact fun follow => (Walks.tired h hn he (Or.inl (by simp [hr]))).walk_eq

/-- What is at a spot on another disk, if it was vacant. -/
def after (d : Disk) : Spot → Spot
  | .found l e => .found l e
  | .vacant l =>
    match d.entry? l with
    | some e => .found l e
    | none => .vacant l

theorem WellFormed.walk_last (hd : d.WellFormed) (hp : d.entry? place ≠ none)
    (h : d.walk true links place names = .ok (.found l .directory)) (hn : IsPlain name)
    (hl : ∀ target, d.entry? (l ++ [name]) ≠ some (.link target)) (follow : Bool) :
    d.walk follow links place (names ++ [name]) =
      .ok (d.after (.vacant (l ++ [name]))) := by
  obtain ⟨m, -, hm⟩ := (walk_eq_iff.mp h).goesOn hd hp (List.cons_ne_nil name [])
  have hdir := (walk_eq_iff.mp h).entry?_found l .directory rfl
  rw [hm follow, walk_eq_iff]
  cases he : d.entry? (l ++ [name]) with
  | none =>
    simp only [after, he]
    exact .vacant hdir hn he
  | some e =>
    simp only [after, he]
    exact .enter hdir hn he (fun t ht => hl t (ht ▸ he)) (.arrive he)

theorem WellFormed.walk_last_ok (hd : d.WellFormed) (hp : d.entry? place ≠ none)
    (h : d.walk true links place names = .ok (.found l .directory)) (hn : IsPlain name) :
    ∃ s, d.walk false links place (names ++ [name]) = .ok s := by
  obtain ⟨m, -, hm⟩ := (walk_eq_iff.mp h).goesOn hd hp (List.cons_ne_nil name [])
  have hdir := (walk_eq_iff.mp h).entry?_found l .directory rfl
  by_cases hl : ∃ target, d.entry? (l ++ [name]) = some (.link target)
  · obtain ⟨target, ht⟩ := hl
    exact ⟨_, (hm false).trans (Walks.halt hdir hn ht rfl).walk_eq⟩
  · exact ⟨_, hd.walk_last hp h hn (fun target ht => hl ⟨target, ht⟩) false⟩

/-- On a disk that has grown a walk leads to the same spot. -/
theorem Walks.grow (hg : Grows d d') (h : Walks d follow links place names r) :
    ∀ s, r = .ok s → Walks d' follow links place names (.ok (d'.after s)) := by
  induction h with
  | arrive h =>
    rintro s hs
    cases hs
    exact .arrive (hg.kept _ _ h)
  | stay h _ ih => exact fun s hs => .stay (hg.kept _ _ h) (ih s hs)
  | up h _ ih => exact fun s hs => .up (hg.kept _ _ h) (ih s hs)
  | @vacant links place name h hn he =>
    rintro s hs
    cases hs
    rcases hg.made _ he with hv | hm
    · simp only [after, hv]
      exact .vacant (hg.kept _ _ h) hn hv
    · simp only [after, hm]
      exact .enter (hg.kept _ _ h) hn hm (by simp) (.arrive hm)
  | enter h hn he hl _ ih =>
    exact fun s hs => .enter (hg.kept _ _ h) hn (hg.kept _ _ he) hl (ih s hs)
  | halt h hn he hf =>
    rintro s hs
    cases hs
    exact .halt (hg.kept _ _ h) hn (hg.kept _ _ he) hf
  | jump h hn he hf _ ih =>
    exact fun s hs => .jump (hg.kept _ _ h) hn (hg.kept _ _ he) hf (ih s hs)
  | _ => rintro s hs; cases hs

theorem Grows.find {p : Path} {s : Spot} (hg : Grows d d') (h : d.find p = .ok s) :
    d'.find p = .ok (d'.after s) := by
  have hs : d'.start p = d.start p := by rw [start, start, hg.current]
  rw [Disk.find, hs]
  exact ((walk_eq_iff.mp h).grow hg s rfl).walk_eq

/-- No link lies on the way to a location. -/
def LinkFree (d : Disk) (l : Location) : Prop := ∀ k, k <+: l → d.link? k = none

instance (d : Disk) (l : Location) : Decidable (d.LinkFree l) :=
  decidable_of_iff (∀ k ∈ l.inits, d.link? k = none) (by simp [LinkFree, List.mem_inits])

theorem LinkFree.not_link {below : List String} {target : String}
    (h : d.LinkFree (l ++ name :: below)) : d.entry? (l ++ [name]) ≠ some (.link target) := by
  intro he
  have hp : l ++ [name] <+: l ++ name :: below := ⟨below, by simp⟩
  rw [← link?_eq_some, h _ hp] at he
  cases he

/-- Along plain names and past no links a walk ends where its names say. -/
theorem Walks.linkFree (h : Walks d follow links place names r)
    (hl : d.LinkFree (place ++ names)) (hn : ∀ n ∈ names, IsPlain n) :
    (∀ l e, r = .ok (.found l e) → l = place ++ names) ∧
      (∀ l, r = .ok (.vacant l) → l = place ++ names) ∧ r ≠ .error .tooManyLinks := by
  induction h with
  | arrive h => simp
  | nowhere h => simp
  | blocked h => simp
  | stay => simp [IsPlain] at hn
  | up => simp [IsPlain] at hn
  | vacant => simp
  | missing => simp
  | enter h _ he hl' _ ih =>
    simpa using ih (by simpa using hl) (List.forall_mem_cons.mp hn).2
  | halt h _ he => exact absurd he hl.not_link
  | jump h _ he => exact absurd he hl.not_link
  | tired h _ he => exact absurd he hl.not_link

theorem WellFormed.walk_entry (hd : d.WellFormed) (he : d.entry? (place ++ names) = some e)
    (hl : d.LinkFree (place ++ names)) :
    d.walk follow links place names = .ok (.found (place ++ names) e) := by
  rw [walk_eq_iff]
  induction names generalizing place with
  | nil =>
    rw [List.append_nil] at he ⊢
    exact .arrive he
  | cons name names ih =>
    have hp := hd.above he (List.cons_ne_nil name names)
    have happ : place ++ name :: names = place ++ [name] ++ names := by simp
    have hn : IsPlain name := hd.isPlain_of_mem he name (by simp)
    obtain ⟨e', he'⟩ : ∃ e', d.entry? (place ++ [name]) = some e' := by
      rcases eq_or_ne names [] with rfl | hne
      · exact ⟨e, he⟩
      · exact ⟨_, hd.above (happ ▸ he) hne⟩
    refine .enter hp hn he' (fun t ht => hl.not_link (ht ▸ he')) ?_
    rw [happ]
    exact ih (happ ▸ he) (happ ▸ hl)

end Scaffold.Disk
