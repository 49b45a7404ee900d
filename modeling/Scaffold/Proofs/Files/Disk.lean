import Mathlib.Data.List.Induction
import Scaffold.Files.Resolve

/-! # Well-formed disks

On a well-formed disk every entry lies in a directory, and no name is a dot or a double dot.
Making directories where nothing was lets a disk grow without a change to what it held.
-/

namespace Scaffold.Disk

variable {d d' d'' : Disk} {l l' : Location} {e e' : Entry} {name : String}

/-- A name that is neither a dot nor a double dot. -/
def IsPlain (name : String) : Prop := name ≠ "." ∧ name ≠ ".."

instance (name : String) : Decidable (IsPlain name) := inferInstanceAs (Decidable (_ ∧ _))

structure WellFormed (d : Disk) : Prop where
  parent : ∀ l name e, d.entry? (l ++ [name]) = some e → d.entry? l = some .directory
  plain : ∀ l name e, d.entry? (l ++ [name]) = some e → IsPlain name
  current : d.entry? d.current = some .directory

theorem entry?_of_ne_nil (h : l ≠ []) : d.entry? l = d.entries.lookup l := by
  unfold entry?
  rw [if_neg (by simpa using h)]

theorem mem_entries (hl : l ≠ []) (h : d.entry? l = some e) : (l, e) ∈ d.entries := by
  rw [entry?_of_ne_nil hl] at h
  obtain ⟨pre, post, hs, -⟩ := List.lookup_eq_some_iff.mp h
  simp [hs]

theorem lookup_replace (entries : List (Location × Entry)) (l l' : Location) (e : Entry) :
    (entries.map fun x => if x.1 = l then (l, e) else x).lookup l' =
      if l' = l then (entries.lookup l).map fun _ => e else entries.lookup l' := by
  induction entries with
  | nil => simp
  | cons x entries ih =>
    obtain ⟨k, e'⟩ := x
    by_cases hk : k = l <;> by_cases hl : l' = l <;> by_cases hx : l' = k <;>
      simp_all [List.lookup_cons, beq_eq_decide]

theorem entry?_put (hl : l ≠ []) (l' : Location) :
    entry? (d.put l e) l' = if l' = l then some e else d.entry? l' := by
  rcases eq_or_ne l' [] with rfl | hn
  · rw [if_neg hl.symm]
    rfl
  rw [entry?_of_ne_nil hn, entry?_of_ne_nil hn, put]
  cases h : d.entries.lookup l with
  | none =>
    simp only [Option.isSome_none, Bool.false_eq_true, if_false, List.lookup_append]
    by_cases he : l' = l
    · simp [he, h]
    · simp [he, List.lookup_cons, beq_eq_decide]
  | some a =>
    simp only [Option.isSome_some, if_true, lookup_replace, h, Option.map_some]

@[simp] theorem entry?_put_self (hl : l ≠ []) : entry? (d.put l e) l = some e := by
  rw [entry?_put hl, if_pos rfl]

theorem entry?_put_of_ne (hl : l ≠ []) (h : l' ≠ l) : entry? (d.put l e) l' = d.entry? l' := by
  rw [entry?_put hl, if_neg h]

@[simp] theorem current_put (d : Disk) (l : Location) (e : Entry) :
    (d.put l e).current = d.current := rfl

theorem put_put (d : Disk) (l : Location) (e : Entry) : (d.put l e).put l e = d.put l e := by
  have hm (entries : List (Location × Entry)) :
      ((entries.map fun x => if x.1 = l then (l, e) else x).map
        fun x => if x.1 = l then (l, e) else x) =
      entries.map fun x => if x.1 = l then (l, e) else x := by
    rw [List.map_map]
    refine List.map_congr_left fun x _ => ?_
    by_cases hx : x.1 = l <;> simp [hx]
  cases h : d.entries.lookup l with
  | none =>
    have hn : ∀ x ∈ d.entries, x.1 ≠ l := fun x hx he => by
      simpa [he] using List.lookup_eq_none_iff.mp h x hx
    have hs : ((d.entries ++ [(l, e)]).lookup l).isSome = true := by
      simp [List.lookup_append, h]
    have hr : (d.entries.map fun x => if x.1 = l then (l, e) else x) = d.entries := by
      rw [List.map_congr_left fun x hx => if_neg (hn x hx), List.map_id']
    simp [put, h, hs, hr]
  | some a =>
    have hs : ((d.entries.map fun x => if x.1 = l then (l, e) else x).lookup l).isSome = true := by
      simp [lookup_replace, h]
    simp [put, h, hs, hm]

theorem link?_eq_some {target : String} :
    d.link? l = some target ↔ d.entry? l = some (.link target) := by
  rw [link?]
  split <;> simp_all

theorem link?_of_directory (h : d.entry? l = some .directory) : d.link? l = none := by
  rw [link?, h]

namespace WellFormed

theorem of_entries (h : ∀ x ∈ d.entries, d.entry? x.1.dropLast = some .directory ∧
    ∀ n ∈ x.1, IsPlain n) (hc : d.entry? d.current = some .directory) : WellFormed d := by
  have hx (l : Location) (name : String) (e : Entry) (he : d.entry? (l ++ [name]) = some e) :
      d.entry? l = some .directory ∧ IsPlain name := by
    obtain ⟨hl, hn⟩ := h (l ++ [name], e) (mem_entries (by simp) he)
    rw [List.dropLast_concat] at hl
    exact ⟨hl, hn name (by simp)⟩
  exact ⟨fun l name e he => (hx l name e he).1, fun l name e he => (hx l name e he).2, hc⟩

variable (hd : WellFormed d)
include hd

theorem above {below : Location} (h : d.entry? (l ++ below) = some e) (hn : below ≠ []) :
    d.entry? l = some .directory := by
  induction below using List.reverseRecOn generalizing e with
  | nil => exact absurd rfl hn
  | append_singleton below name ih =>
    have hp := hd.parent (l ++ below) name e (by rwa [List.append_assoc])
    rcases eq_or_ne below [] with rfl | hb
    · rwa [List.append_nil] at hp
    · exact ih hp hb

theorem isPlain_of_mem (h : d.entry? l = some e) : ∀ n ∈ l, IsPlain n := by
  induction l using List.reverseRecOn generalizing e with
  | nil => simp
  | append_singleton l name ih =>
    rw [List.forall_mem_append, List.forall_mem_singleton]
    exact ⟨ih (hd.parent l name e h), hd.plain l name e h⟩

theorem dropLast (h : d.entry? l = some e) : d.entry? l.dropLast = some .directory := by
  rcases List.eq_nil_or_concat l with rfl | ⟨l, name, rfl⟩
  · rfl
  · rw [List.concat_eq_append] at h ⊢
    rw [List.dropLast_concat]
    exact hd.parent l name _ h

theorem entry?_start (p : Path) : d.entry? (d.start p) = some .directory := by
  rw [start]
  split
  · exact hd.current
  · rfl

theorem vacant_below (h : d.entry? l = none) (name : String) : d.entry? (l ++ [name]) = none := by
  cases he : d.entry? (l ++ [name]) with
  | none => rfl
  | some e =>
    have := hd.parent l name e he
    rw [h] at this
    cases this

theorem put (hl : d.entry? l = some .directory) (hn : IsPlain name)
    (he : e = .directory ∨ d.entry? (l ++ [name]) ≠ some .directory) :
    WellFormed (d.put (l ++ [name]) e) := by
  have hne : l ++ [name] ≠ [] := by simp
  refine ⟨fun k x e' h => ?_, fun k x e' h => ?_, ?_⟩
  · by_cases hk : k = l ++ [name]
    · have hx : k ++ [x] ≠ l ++ [name] := by simp [hk]
      rw [entry?_put_of_ne hne hx] at h
      rw [hk, entry?_put_self hne]
      rcases he with rfl | he
      · rfl
      · exact absurd (hk ▸ hd.parent k x e' h) he
    · rw [entry?_put_of_ne hne hk]
      by_cases hx : k ++ [x] = l ++ [name]
      · rwa [(List.append_inj' hx rfl).1]
      · rw [entry?_put_of_ne hne hx] at h
        exact hd.parent k x e' h
  · by_cases hx : k ++ [x] = l ++ [name]
    · obtain ⟨-, hxn⟩ := List.append_inj' hx rfl
      rwa [List.singleton_inj.mp hxn]
    · rw [entry?_put_of_ne hne hx] at h
      exact hd.plain k x e' h
  · rw [current_put]
    by_cases hc : d.current = l ++ [name]
    · rw [hc, entry?_put_self hne]
      rcases he with rfl | he
      · rfl
      · exact absurd (hc ▸ hd.current) he
    · rw [entry?_put_of_ne hne hc]
      exact hd.current

end WellFormed

/-- The second disk holds what the first one does and new directories besides. -/
structure Grows (d d' : Disk) : Prop where
  kept : ∀ l e, d.entry? l = some e → d'.entry? l = some e
  made : ∀ l, d.entry? l = none → d'.entry? l = none ∨ d'.entry? l = some .directory
  current : d'.current = d.current
  host : d'.host = d.host

namespace Grows

theorem refl (d : Disk) : Grows d d := ⟨fun _ _ h => h, fun _ h => Or.inl h, rfl, rfl⟩

theorem trans (h : Grows d d') (h' : Grows d' d'') : Grows d d'' where
  kept l e he := h'.kept l e (h.kept l e he)
  made l hn := by
    rcases h.made l hn with hm | hm
    · exact h'.made l hm
    · exact Or.inr (h'.kept l _ hm)
  current := h'.current.trans h.current
  host := h'.host.trans h.host

theorem put_directory (hl : l ≠ []) (h : d.entry? l = none) : Grows d (d.put l .directory) where
  kept k e he := by
    have hk : k ≠ l := by
      rintro rfl
      rw [h] at he
      cases he
    rwa [entry?_put_of_ne hl hk]
  made k hn := by
    by_cases hk : k = l
    · rw [hk]
      exact Or.inr (entry?_put_self hl)
    · rw [entry?_put_of_ne hl hk]
      exact Or.inl hn
  current := rfl
  host := rfl

theorem entry?_eq (h : Grows d d') (l : Location) :
    d'.entry? l = d.entry? l ∨ d.entry? l = none ∧ d'.entry? l = some .directory := by
  cases he : d.entry? l with
  | none => exact (h.made l he).imp_right fun hm => ⟨rfl, hm⟩
  | some e => exact Or.inl (h.kept l e he)

theorem link?_eq (h : Grows d d') (l : Location) : d'.link? l = d.link? l := by
  rw [link?, link?]
  rcases h.entry?_eq l with he | ⟨hn, he⟩
  · rw [he]
  · rw [hn, he]

end Grows

end Scaffold.Disk
