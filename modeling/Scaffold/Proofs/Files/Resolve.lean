import Mathlib.Data.List.Nodup
import Mathlib.Data.List.TakeWhile
import Mathlib.Data.Nat.Find
import Scaffold.Proofs.Files.Walk

/-! # Resolved locations

Links are never more than the entries of a disk, so that the depth given to a resolution is always
enough and the result depends on the links alone. A path is resolved to the place where it leads
unless a link that leads back to itself is in the way, and no link lies on the way to that place.
-/

namespace Scaffold.Disk

variable {d d' : Disk} {depth : Nat} {around : List Location} {place l : Location}
  {names : List String} {p q : Path} {jump jump' : Location → Location → List String → Resolved}

/-- Only links that are not being resolved are jumped from. -/
theorem resolveWith_congr
    (hj : ∀ l, d.link? l ≠ none → l ∉ around → jump l = jump' l)
    (place : Location) (names : List String) :
    d.resolveWith jump around place names = d.resolveWith jump' around place names := by
  induction names generalizing place with
  | nil => rfl
  | cons name rest ih =>
    rw [resolveWith, resolveWith, ih, ih]
    cases hl : d.link? (place ++ [name]) with
    | none => simp only [ih]
    | some target =>
      by_cases ha : place ++ [name] ∈ around
      · simp only [List.contains_iff_mem, ha, if_true]
      · rw [hj (place ++ [name]) (by simp [hl]) ha]
        simp only [ih]

/-- Links inside each other, each of them resolved for the one before. -/
structure Nested (d : Disk) (around : List Location) : Prop where
  nodup : around.Nodup
  link : ∀ l ∈ around, d.link? l ≠ none

theorem mem_of_link? (h : d.link? l ≠ none) : l ∈ d.entries.map Prod.fst := by
  obtain ⟨target, ht⟩ := Option.ne_none_iff_exists'.mp h
  rw [link?_eq_some] at ht
  have hn : l ≠ [] := by
    rintro rfl
    cases ht
  exact List.mem_map.mpr ⟨_, mem_entries hn ht, rfl⟩

theorem Nested.length_le (h : d.Nested around) : around.length ≤ d.entries.length := by
  have := h.nodup.length_le_of_subset fun l hl => mem_of_link? (h.link l hl)
  rwa [List.length_map] at this

theorem Nested.cons (h : d.Nested around) (hl : d.link? l ≠ none) (ha : l ∉ around) :
    d.Nested (l :: around) :=
  ⟨List.nodup_cons.mpr ⟨ha, h.nodup⟩, List.forall_mem_cons.mpr ⟨hl, h.link⟩⟩

/-- With as much depth as there are entries, more of it makes no difference. -/
theorem Nested.resolveFrom_succ (h : d.Nested around)
    (hd : d.entries.length ≤ around.length + depth) :
    d.resolveFrom (depth + 1) around = d.resolveFrom depth around := by
  induction depth generalizing around with
  | zero =>
    funext place names
    rw [resolveFrom, resolveFrom]
    refine resolveWith_congr (fun l hl ha => ?_) place names
    have := (h.cons hl ha).length_le
    rw [List.length_cons] at this
    omega
  | succ depth ih =>
    funext place names
    rw [resolveFrom, resolveFrom]
    refine resolveWith_congr (fun l hl ha => ?_) place names
    rw [ih (h.cons hl ha) (by rw [List.length_cons]; omega)]

theorem resolveFrom_add (d : Disk) (more : Nat) :
    d.resolveFrom (d.entries.length + more) [] = d.resolveFrom d.entries.length [] := by
  induction more with
  | zero => rfl
  | succ more ih =>
    have h : d.Nested [] := ⟨List.nodup_nil, by simp⟩
    rw [← Nat.add_assoc, h.resolveFrom_succ (by simp), ih]

theorem resolveWith_link? (h : ∀ l, d'.link? l = d.link? l) (place : Location)
    (names : List String) :
    d'.resolveWith jump around place names = d.resolveWith jump around place names := by
  induction names generalizing place with
  | nil => rfl
  | cons name rest ih => simp only [resolveWith, h, ih]

theorem resolveFrom_link? (h : ∀ l, d'.link? l = d.link? l) (depth : Nat)
    (around : List Location) : d'.resolveFrom depth around = d.resolveFrom depth around := by
  induction depth generalizing around with
  | zero =>
    funext place names
    exact resolveWith_link? h place names
  | succ depth ih =>
    funext place names
    simp only [resolveFrom, ih, resolveWith_link? h]

/-- What a path resolves to depends on the links alone. -/
theorem resolveFrom_length (h : ∀ l, d'.link? l = d.link? l) :
    d'.resolveFrom d'.entries.length [] = d.resolveFrom d.entries.length [] := by
  rw [← resolveFrom_add d' d.entries.length, ← resolveFrom_add d d'.entries.length,
    resolveFrom_link? h, Nat.add_comm]

/-- A location of plain names with no link on the way. -/
structure Settled (d : Disk) (l : Location) : Prop where
  linkFree : d.LinkFree l
  plain : ∀ n ∈ l, IsPlain n

theorem linkFree_nil (d : Disk) : d.LinkFree [] := by
  rintro k hk
  rw [List.prefix_nil.mp hk]
  rfl

theorem LinkFree.of_prefix (h : d.LinkFree l) {k : Location} (hk : k <+: l) : d.LinkFree k :=
  fun j hj => h j (hj.trans hk)

theorem LinkFree.append {name : String} (h : d.LinkFree l) (hn : d.link? (l ++ [name]) = none) :
    d.LinkFree (l ++ [name]) := by
  intro k hk
  rcases List.prefix_concat_iff.mp hk with rfl | hk
  · exact hn
  · exact h k hk

theorem settled_nil (d : Disk) : d.Settled [] := ⟨d.linkFree_nil, by simp⟩

theorem Settled.dropLast (h : d.Settled l) : d.Settled l.dropLast :=
  ⟨h.linkFree.of_prefix (List.dropLast_prefix l), fun n hn => h.plain n (List.dropLast_subset l hn)⟩

theorem Settled.linkStart (h : d.Settled l) (target : String) :
    d.Settled (linkStart l target) := by
  rw [Disk.linkStart]
  split
  · exact d.settled_nil
  · exact h

/-- How names lead from a place to a location over links, of which at most `depth` lie inside each
other. Where a link leads is found before the names after it are looked at. -/
inductive LeadsIn (d : Disk) : Nat → Location → List String → Location → Prop
  | arrive {depth : Nat} {place : Location} : LeadsIn d depth place [] place
  | stay {depth : Nat} {place l : Location} {rest : List String}
      (hr : LeadsIn d depth place rest l) : LeadsIn d depth place ("." :: rest) l
  | up {depth : Nat} {place l : Location} {rest : List String}
      (hr : LeadsIn d depth place.dropLast rest l) : LeadsIn d depth place (".." :: rest) l
  | enter {depth : Nat} {place l : Location} {name : String} {rest : List String}
      (hn : IsPlain name) (hl : d.link? (place ++ [name]) = none)
      (hr : LeadsIn d depth (place ++ [name]) rest l) : LeadsIn d depth place (name :: rest) l
  | jump {depth : Nat} {place k l : Location} {name target : String} {rest : List String}
      (hn : IsPlain name) (hl : d.link? (place ++ [name]) = some target)
      (ht : LeadsIn d depth (linkStart place target) (linkParts target) k)
      (hr : LeadsIn d (depth + 1) k rest l) : LeadsIn d (depth + 1) place (name :: rest) l

theorem Settled.leadsIn (h : d.Settled (place ++ names)) : d.LeadsIn depth place names
    (place ++ names) := by
  induction names generalizing place with
  | nil =>
    rw [List.append_nil]
    exact .arrive
  | cons name rest ih =>
    rw [List.append_cons] at h ⊢
    refine .enter (h.plain name (by simp)) ?_ (ih h)
    exact h.linkFree _ (List.prefix_append _ _)

namespace LeadsIn

theorem settled (h : d.LeadsIn depth place names l) (hp : d.Settled place) : d.Settled l := by
  induction h with
  | arrive => exact hp
  | stay _ ih => exact ih hp
  | up _ ih => exact ih hp.dropLast
  | enter hn hl _ ih =>
    refine ih ⟨hp.linkFree.append hl, ?_⟩
    rw [List.forall_mem_append, List.forall_mem_singleton]
    exact ⟨hp.plain, hn⟩
  | jump _ _ _ _ iht ihr => exact ihr (iht (hp.linkStart _))

theorem mono {depth' : Nat} (h : d.LeadsIn depth place names l) (hd : depth ≤ depth') :
    d.LeadsIn depth' place names l := by
  induction h generalizing depth' with
  | arrive => exact .arrive
  | stay _ ih => exact .stay (ih hd)
  | up _ ih => exact .up (ih hd)
  | enter hn hl _ ih => exact .enter hn hl (ih hd)
  | jump hn hl _ _ iht ihr =>
    obtain ⟨n, rfl⟩ := Nat.exists_eq_add_of_lt hd
    exact .jump hn hl (iht (by omega)) (ihr hd)

/-- Names lead to one location, however many links are allowed. -/
theorem unique {depth' : Nat} {l' : Location} (h : d.LeadsIn depth place names l)
    (h' : d.LeadsIn depth' place names l') : l = l' := by
  induction h generalizing depth' l' with
  | arrive =>
    cases h'
    rfl
  | stay _ ih =>
    generalize hdot : "." = name at h'
    cases h' with
    | stay hr => exact ih hr
    | up => exact absurd hdot (by decide)
    | enter hn => exact absurd hdot.symm hn.1
    | jump hn => exact absurd hdot.symm hn.1
  | up _ ih =>
    generalize hdots : ".." = name at h'
    cases h' with
    | stay => exact absurd hdots (by decide)
    | up hr => exact ih hr
    | enter hn => exact absurd hdots.symm hn.2
    | jump hn => exact absurd hdots.symm hn.2
  | enter hn hl _ ih =>
    cases h' with
    | stay => exact absurd rfl hn.1
    | up => exact absurd rfl hn.2
    | enter _ _ hr => exact ih hr
    | jump _ hl' => cases hl.symm.trans hl'
  | jump hn hl _ _ iht ihr =>
    cases h' with
    | stay => exact absurd rfl hn.1
    | up => exact absurd rfl hn.2
    | enter _ hl' => cases hl.symm.trans hl'
    | jump _ hl' ht' hr' =>
      cases hl.symm.trans hl'
      cases iht ht'
      exact ihr hr'

theorem append {k : Location} {rest : List String} (h : d.LeadsIn depth place names k)
    (hr : d.LeadsIn depth k rest l) : d.LeadsIn depth place (names ++ rest) l := by
  induction h with
  | arrive => exact hr
  | stay _ ih => exact .stay (ih hr)
  | up _ ih => exact .up (ih hr)
  | enter hn hl _ ih => exact .enter hn hl (ih hr)
  | jump hn hl ht _ _ ih => exact .jump hn hl ht (ih hr)

theorem exists_of_append {rest : List String} (h : d.LeadsIn depth place (names ++ rest) l) :
    ∃ k, d.LeadsIn depth place names k ∧ d.LeadsIn depth k rest l := by
  induction names generalizing place with
  | nil => exact ⟨place, .arrive, h⟩
  | cons name names ih =>
    cases h with
    | stay hr =>
      obtain ⟨k, hk, hr⟩ := ih hr
      exact ⟨k, .stay hk, hr⟩
    | up hr =>
      obtain ⟨k, hk, hr⟩ := ih hr
      exact ⟨k, .up hk, hr⟩
    | enter hn hl hr =>
      obtain ⟨k, hk, hr⟩ := ih hr
      exact ⟨k, .enter hn hl hk, hr⟩
    | jump hn hl ht hr =>
      obtain ⟨k, hk, hr⟩ := ih hr
      exact ⟨k, .jump hn hl ht hk, hr⟩

end LeadsIn

theorem leadsIn_of_resolveWith
    (hj : ∀ k place names l, jump k place names = .place l →
      ∃ n, depth = n + 1 ∧ d.LeadsIn n place names l)
    (h : d.resolveWith jump around place names = .place l) : d.LeadsIn depth place names l := by
  induction names generalizing place with
  | nil =>
    cases h
    exact .arrive
  | cons name rest ih =>
    rw [resolveWith] at h
    split at h
    · rename_i hdot
      exact hdot ▸ .stay (ih h)
    split at h
    · rename_i hdots
      exact hdots ▸ .up (ih h)
    rename_i hdot hdots
    split at h
    · exact .enter ⟨hdot, hdots⟩ ‹_› (ih h)
    split at h
    · cases h
    split at h
    · obtain ⟨n, rfl, ht⟩ := hj _ _ _ _ ‹_›
      exact .jump ⟨hdot, hdots⟩ ‹_› ht (ih h)
    · cases h

/-- What is resolved to a place leads there. -/
theorem leadsIn_of_resolveFrom (h : d.resolveFrom depth around place names = .place l) :
    d.LeadsIn depth place names l := by
  induction depth generalizing around place names l with
  | zero =>
    refine leadsIn_of_resolveWith (fun _ _ _ _ hs => ?_) h
    cases hs
  | succ depth ih => exact leadsIn_of_resolveWith (fun _ _ _ _ hr => ⟨depth, rfl, ih hr⟩) h

theorem Settled.resolveFrom (hp : d.Settled place)
    (h : d.resolveFrom depth around place names = .place l) : d.Settled l :=
  (leadsIn_of_resolveFrom h).settled hp

/-- Whether the links that are being resolved have as many links inside them as this or more. -/
def TooDeep (d : Disk) (depth : Nat) (around : List Location) : Prop :=
  ∀ place name target, place ++ [name] ∈ around → d.link? (place ++ [name]) = some target →
    ∀ m < depth, ∀ l, ¬d.LeadsIn m (linkStart place target) (linkParts target) l

/-- A link that leads somewhere has some number of links inside it for which the links around it
are too deep, and so is the link itself. -/
theorem TooDeep.cons {name target : String} (h : d.TooDeep (depth + 1) around)
    (hl : d.link? (place ++ [name]) = some target)
    (ht : d.LeadsIn depth (linkStart place target) (linkParts target) l) :
    ∃ m ≤ depth, d.LeadsIn m (linkStart place target) (linkParts target) l ∧
      d.TooDeep m ((place ++ [name]) :: around) := by
  classical
  have hex : ∃ m l, d.LeadsIn m (linkStart place target) (linkParts target) l := ⟨depth, l, ht⟩
  have hle : Nat.find hex ≤ depth := Nat.find_min' hex ⟨l, ht⟩
  obtain ⟨l', hl'⟩ := Nat.find_spec hex
  cases ht.unique hl'
  refine ⟨Nat.find hex, hle, hl', fun place' name' target' hmem hk m hm s hs => ?_⟩
  rcases List.mem_cons.mp hmem with he | hmem
  · obtain ⟨rfl, hn⟩ := List.append_inj' he rfl
    cases List.singleton_inj.mp hn
    cases hl.symm.trans hk
    exact Nat.find_min hex hm ⟨s, hs⟩
  · exact h place' name' target' hmem hk m (by omega) s hs

/-- What leads somewhere is resolved to it: a link that leads back to itself cannot be on the
way, since it would lie inside itself with fewer links inside it. -/
theorem resolveFrom_of_leadsIn {links : Nat} (ha : d.Nested around)
    (hdepth : d.entries.length ≤ around.length + depth) (hf : d.TooDeep links around)
    (h : d.LeadsIn links place names l) : d.resolveFrom depth around place names = .place l := by
  induction links using Nat.strong_induction_on generalizing depth around place names l with
  | _ links ih =>
  have hstep (place : Location) (names : List String) :
      d.resolveWith (fun l place names => d.resolveFrom depth (l :: around) place names) around
        place names = d.resolveFrom depth around place names := by
    rw [← ha.resolveFrom_succ hdepth]
    rfl
  induction names generalizing place with
  | nil =>
    rw [← hstep, resolveWith]
    cases h
    rfl
  | cons name rest ihn =>
    rw [← hstep, resolveWith]
    cases h with
    | stay hr =>
      rw [if_pos rfl, hstep]
      exact ihn hr
    | up hr =>
      rw [if_neg (by decide), if_pos rfl, hstep]
      exact ihn hr
    | enter hn hl hr =>
      rw [if_neg hn.1, if_neg hn.2, hl]
      dsimp only
      rw [hstep]
      exact ihn hr
    | @jump links _ k _ _ target _ hn hl ht hr =>
      have hmem : place ++ [name] ∉ around := fun hmem =>
        hf place name target hmem hl links (Nat.lt_succ_self links) k ht
      obtain ⟨m, hm, htm, hdeep⟩ := hf.cons hl ht
      have hdepth' : d.entries.length ≤ ((place ++ [name]) :: around).length + depth := by
        rw [List.length_cons]
        omega
      have hjump := ih m (by omega) (ha.cons (by simp [hl]) hmem) hdepth' hdeep htm
      rw [if_neg hn.1, if_neg hn.2, hl]
      simp only [List.contains_iff_mem, hmem, if_false, hjump]
      rw [hstep]
      exact ihn hr

theorem plain_fold (names : List String) : ∀ n ∈ fold names, IsPlain n := by
  rw [fold]
  have (l : Location) (hl : ∀ n ∈ l, IsPlain n) : ∀ n ∈ names.foldl (fun l name =>
      if name = "" ∨ name = "." then l
      else if name = ".." then l.dropLast else l ++ [name]) l, IsPlain n := by
    induction names generalizing l with
    | nil => exact hl
    | cons name names ih =>
      refine ih _ ?_
      dsimp only
      split
      · exact hl
      rename_i hdot
      split
      · exact fun n hn => hl n (List.dropLast_subset l hn)
      · rw [List.forall_mem_append, List.forall_mem_singleton]
        exact ⟨hl, fun hn => hdot (Or.inr hn), ‹_›⟩
  exact this [] (by simp)

theorem linkFree_congr (h : ∀ l, d'.link? l = d.link? l) : d'.LinkFree l ↔ d.LinkFree l := by
  simp only [LinkFree, h]

theorem resolved_of_place (h : d.resolution p = .place l) : d.resolved p = ⟨.root, l⟩ := by
  rw [resolved, h]

theorem anchor_resolved (d : Disk) (p : Path) : (d.resolved p).anchor ≠ .relative := by
  rw [resolved]
  split
  · simp
  · dsimp only
    unfold foldAnchor
    split <;> simp

theorem start_of_anchor (h : p.anchor ≠ .relative) : d.start p = [] := by
  rw [start]
  split
  · contradiction
  · rfl

theorem resolve_eq_ok : d.resolve p = .ok q ↔ d.flawed? isNull p = none ∧ q = d.resolved p ∧
    d.find q ≠ .error .tooManyLinks := by
  rw [resolve]
  split
  · rename_i hn
    simp only [false_iff, reduceCtorEq]
    rintro ⟨hn', -, -⟩
    simp [hn'] at hn
  split
  · rename_i hf
    simp only [false_iff, reduceCtorEq]
    rintro ⟨-, rfl, hq⟩
    exact hq hf
  · rename_i hn _ hf
    rw [Except.ok.injEq]
    constructor
    · rintro rfl
      exact ⟨by simpa using hn, rfl, hf⟩
    · rintro ⟨-, rfl, -⟩
      rfl

theorem flawed?_of_place {hasFlaw : String → Bool} (h : d.resolution p = .place l)
    (hn : p.parts.any hasFlaw = false) : d.flawed? hasFlaw p = none := by
  have hs : p.parts.takeWhile (!hasFlaw ·) = p.parts := by
    refine List.takeWhile_eq_self_iff.mpr fun name hmem => ?_
    simpa using List.any_eq_false.mp hn name hmem
  simp only [flawed?, hs, h]
  simp

theorem probe_of_place (h : d.resolution p = .place l)
    (hn : ∀ n ∈ p.parts, d.host.refuses n = false) : d.probe p = .ok () := by
  have hp : p.parts.any d.host.refuses = false := by simpa using hn
  rw [probe, flawed?_of_place h hp]
  rfl

theorem WellFormed.settled_of_entry {e : Entry} (hd : d.WellFormed) (h : d.entry? l = some e)
    (he : ∀ target, e ≠ .link target) : d.Settled l := by
  refine ⟨?_, hd.isPlain_of_mem h⟩
  rintro k ⟨below, rfl⟩
  rcases eq_or_ne below [] with rfl | hb
  · rw [List.append_nil] at h
    rw [Option.eq_none_iff_forall_ne_some]
    intro target ht
    rw [link?_eq_some, h] at ht
    exact he target (Option.some.inj ht)
  · exact link?_of_directory (hd.above h hb)

theorem WellFormed.settled_start (hd : d.WellFormed) (p : Path) : d.Settled (d.start p) :=
  hd.settled_of_entry (hd.entry?_start p) (by simp)

theorem WellFormed.plain_resolved (hd : d.WellFormed) (p : Path) :
    ∀ n ∈ (d.resolved p).parts, IsPlain n := by
  rw [resolved]
  split
  · rename_i h
    exact ((hd.settled_start p).resolveFrom h).plain
  · exact plain_fold _

section SameLinks

variable (h : ∀ l, d'.link? l = d.link? l) (hc : d'.current = d.current)
include h hc

theorem resolution_link? (p : Path) : d'.resolution p = d.resolution p := by
  rw [resolution, resolution, resolveFrom_length h, start, start, hc]

theorem resolved_link? (p : Path) : d'.resolved p = d.resolved p := by
  rw [resolved, resolved, resolution_link? h hc]

theorem flawed?_link? (hasFlaw : String → Bool) (p : Path) :
    d'.flawed? hasFlaw p = d.flawed? hasFlaw p := by
  simp only [flawed?, resolution_link? h hc, resolved_link? h hc]

theorem probe_link? (hh : d'.host = d.host) (p : Path) : d'.probe p = d.probe p := by
  simp only [probe, flawed?_link? h hc, hh]

theorem resolve_link? (hd : d.WellFormed) (hl : d.LinkFree q.parts) (hr : d.resolve p = .ok q) :
    d'.resolve p = .ok q := by
  obtain ⟨hn, rfl, -⟩ := resolve_eq_ok.mp hr
  refine resolve_eq_ok.mpr ⟨by rw [flawed?_link? h hc, hn], by rw [resolved_link? h hc], ?_⟩
  rw [Disk.find, start_of_anchor (anchor_resolved d p)]
  have hw := walks_walk d' true maxLinks [] (d.resolved p).parts
  exact (hw.linkFree ((linkFree_congr h).mpr hl) (hd.plain_resolved p)).2.2

end SameLinks

def spotLocation : Spot → Location
  | .found l _ => l
  | .vacant l => l

/-- Where a path leads over links that lead somewhere themselves. -/
def Leads (d : Disk) (p : Path) (l : Location) : Prop :=
  ∃ depth, d.LeadsIn depth (d.start p) p.parts l

/-- A path is resolved to the place where it leads, and is stuck exactly if it leads nowhere. -/
theorem resolution_eq_place : d.resolution p = .place l ↔ d.Leads p l := by
  constructor
  · intro h
    exact ⟨d.entries.length, leadsIn_of_resolveFrom h⟩
  · rintro ⟨depth, h⟩
    exact resolveFrom_of_leadsIn ⟨List.nodup_nil, by simp⟩ (by simp)
      (fun _ _ _ hk => by cases hk) h

theorem leadsIn_of_walk {links : Nat} {s : Spot} (hd : d.WellFormed)
    (hp : d.entry? place ≠ none) (h : d.walk true links place names = .ok s) :
    d.LeadsIn links place names (spotLocation s) := by
  induction links using Nat.strong_induction_on generalizing place names s with
  | _ links ih =>
  induction names generalizing place s with
  | nil =>
    cases walk_eq_iff.mp h
    exact .arrive
  | cons name rest ihn =>
    cases walk_eq_iff.mp h with
    | stay _ hr => exact .stay (ihn hp hr.walk_eq)
    | up he hr => exact .up (ihn (by simp [hd.dropLast he]) hr.walk_eq)
    | vacant _ hn hv => exact .enter hn (by rw [link?, hv]) .arrive
    | @enter _ _ _ _ e _ _ hn hv hk hr =>
      refine .enter hn ?_ (ihn (by simp [hv]) hr.walk_eq)
      rw [Option.eq_none_iff_forall_ne_some]
      intro target ht
      rw [link?_eq_some, hv] at ht
      exact hk target (Option.some.inj ht)
    | halt _ _ _ hfollow => cases hfollow
    | @jump links _ _ target _ _ he hn hv _ hr =>
      have hstart : d.entry? (linkStart place target) ≠ none := by simp [entry?_linkStart he]
      -- The names of the target and those after it are looked up together.
      obtain ⟨k, ht, hr⟩ := (ih links (by omega) hstart hr.walk_eq).exists_of_append
      exact .jump hn (link?_eq_some.mpr hv) ht (hr.mono (by omega))

theorem WellFormed.resolution_of_find {s : Spot} (hd : d.WellFormed) (h : d.find p = .ok s) :
    d.resolution p = .place (spotLocation s) :=
  resolution_eq_place.mpr ⟨maxLinks, leadsIn_of_walk hd (by simp [hd.entry?_start p]) h⟩

theorem WellFormed.resolve_of_leads (hd : d.WellFormed) (hn : hasNull p = false)
    (h : d.Leads p l) : d.resolve p = .ok ⟨.root, l⟩ := by
  have hr := resolution_eq_place.mpr h
  refine resolve_eq_ok.mpr ⟨flawed?_of_place hr hn, (resolved_of_place hr).symm, ?_⟩
  have hs : d.Settled l := (hd.settled_start p).resolveFrom hr
  have hw := walks_walk d true maxLinks [] l
  exact (hw.linkFree hs.linkFree hs.plain).2.2

theorem WellFormed.resolve_of_find {s : Spot} (hd : d.WellFormed) (hn : hasNull p = false)
    (h : d.find p = .ok s) : d.resolve p = .ok ⟨.root, spotLocation s⟩ :=
  hd.resolve_of_leads hn (resolution_eq_place.mp (hd.resolution_of_find h))

theorem WellFormed.resolve_directory (hd : d.WellFormed) (h : d.entry? l = some .directory)
    (hr : d.resolve ⟨.root, l⟩ = .ok p) : p = ⟨.root, l⟩ := by
  obtain ⟨-, rfl, -⟩ := resolve_eq_ok.mp hr
  have hfree : d.LinkFree l := (hd.settled_of_entry h (by simp)).linkFree
  have hfind : d.find ⟨.root, l⟩ = .ok (.found l .directory) := hd.walk_entry h hfree
  exact resolved_of_place (hd.resolution_of_find hfind)

end Scaffold.Disk
