import Scaffold.Proofs.Column.Grammar
import Scaffold.Proofs.Text.Blank

/-! # The fields of a column line

A column line is read by its fields only: the texts between commas and colons without the blanks
around them, where columns of one blank field do not count. So it does not matter how the fields are
spaced, and what one column says is independent of the columns around it.
-/

namespace Scaffold.Column

open Text (isBlank split trim)

variable {as bs cs gap part : List Char} {fs gs : List (List Char)} {c : Column}

def Gap (gap : List Char) : Prop := ∀ c ∈ gap, isBlank c = true

def marks : List Char := [',', ':']

theorem Gap.not_mem (hg : Gap gap) {mark : Char} (hm : mark ∈ marks) : mark ∉ gap := by
  intro h
  have hsolid : ∀ mark ∈ marks, isBlank mark = false :=
    List.forall_mem_cons.mpr ⟨by decide, List.forall_mem_singleton.mpr (by decide)⟩
  exact absurd (hg mark h) (by simp [hsolid mark hm])

/-- A place in a text that is at an end of it or beside one of these characters. -/
def Beside (seps as bs : List Char) : Prop :=
  (∀ c ∈ as.getLast?, c ∈ seps) ∨ ∀ c ∈ bs.head?, c ∈ seps

theorem eq_nil_of_getLast? {sep : Char} (hs : sep ∉ cs) (h : ∀ c ∈ cs.getLast?, c = sep) :
    cs = [] := by
  rcases List.eq_nil_or_concat cs with rfl | ⟨init, last, rfl⟩
  · rfl
  · have he : last = sep := h last (by simp)
    exact absurd (by simp [he]) hs

theorem eq_nil_of_head? {sep : Char} (hs : sep ∉ cs) (h : ∀ c ∈ cs.head?, c = sep) : cs = [] := by
  cases cs with
  | nil => rfl
  | cons head t => exact absurd (by simp [h head rfl]) hs

theorem mem_getLast?_of_back (h : cs <:+ as) {c : Char} (hc : c ∈ cs.getLast?) :
    c ∈ as.getLast? := by
  obtain ⟨pre, rfl⟩ := h
  rcases List.eq_nil_or_concat cs with rfl | ⟨init, last, rfl⟩
  · cases hc
  · simpa using hc

theorem mem_head?_of_front (h : cs <+: as) {c : Char} (hc : c ∈ cs.head?) : c ∈ as.head? := by
  obtain ⟨post, rfl⟩ := h
  cases cs with
  | nil => cases hc
  | cons head t => exact hc

/-! ### Fields -/

/-- Blanks beside a colon or at an end of a part are no part of its fields. -/
theorem fields_gap (hg : Gap gap) (hb : Beside [':'] as bs) :
    fields (as ++ (gap ++ bs)) = fields (as ++ bs) := by
  obtain ⟨pre, l, r, post, hl, hln, hr, hrn, hsplit⟩ := Text.exists_split_append ':' as bs
  have hwith := hsplit gap (hg.not_mem (by decide))
  have hwithout := hsplit [] (by simp)
  rw [List.nil_append, List.nil_append] at hwithout
  rw [fields, fields, hwith, hwithout]
  simp only [List.map_append, List.map_cons]
  congr 2
  rcases hb with hb | hb
  · obtain rfl : l = [] := eq_nil_of_getLast? hln fun c hc =>
      List.mem_singleton.mp (hb c (mem_getLast?_of_back hl hc))
    rw [List.nil_append, List.nil_append, Text.trim_blank_append r hg]
  · obtain rfl : r = [] := eq_nil_of_head? hrn fun c hc =>
      List.mem_singleton.mp (hb c (mem_head?_of_front hr hc))
    rw [List.append_nil, List.append_nil, Text.trim_append_blank l hg]

theorem fields_trim (part : List Char) : fields (trim part) = fields part := by
  obtain ⟨lead, tail, he, hl, ht⟩ := Text.trim_append part
  have hlead := @fields_gap [] (trim part ++ tail) lead hl (Or.inl (by simp))
  have htail := @fields_gap (trim part) [] tail ht (Or.inr (by simp))
  simp only [List.nil_append, List.append_nil] at hlead htail
  rw [← htail, ← hlead, ← List.append_assoc, ← he]

theorem fields_eq_blank : fields part = [[]] ↔ trim part = [] := by
  constructor
  · intro h
    by_cases hm : ':' ∈ part
    · obtain ⟨p, q, rfl, -⟩ := List.eq_append_cons_of_mem hm
      rw [fields, Text.split_append_sep, List.map_append] at h
      have hlen := congrArg List.length h
      have hp : 0 < (split ':' p).length := List.length_pos_of_ne_nil (Text.split_ne_nil ':' p)
      have hq : 0 < (split ':' q).length := List.length_pos_of_ne_nil (Text.split_ne_nil ':' q)
      simp only [List.length_append, List.length_map, List.length_singleton] at hlen
      omega
    · rw [fields, Text.split_of_not_mem hm] at h
      simpa using h
  · intro h
    rw [← fields_trim, h]
    rfl

/-! ### Rows -/

/-- The fields of the columns of a line, leaving out blank columns. -/
def rows (line : List Char) : List (List (List Char)) :=
  ((split ',' line).map fields).filter (· ≠ [[]])

theorem map_fields_parts (line : String) : (parts line).map fields = rows line.toList := by
  have hfields : fields ∘ trim = fields := funext fields_trim
  have hkept : ((fun fs : List (List Char) => decide (fs ≠ [[]])) ∘ fields) =
      (fun cs : List Char => decide (cs ≠ [])) ∘ trim := by
    funext part
    simp [fields_eq_blank]
  rw [parts, rows, List.filter_map, List.filter_map, List.map_map, hfields, hkept]

inductive Means : List (List Char) → Column → Prop
  | intro {name type : List Char} {rest : List (List Char)} {modifiers : List Modifier}
      (hn : name ≠ []) (ht : type ≠ []) (hm : List.Forall₂ Modifier.Reads rest modifiers) :
      Means (name :: type :: rest) (modifiers.foldl Modifier.apply
        { name := String.ofList name, kind := .ofAlias (String.ofList type) })

theorem defines_iff : Defines part c ↔ Means (fields part) c := by
  constructor
  · rintro ⟨hf, hn, ht, hm⟩
    rw [hf]
    exact .intro hn ht hm
  · generalize hf : fields part = fs
    rintro ⟨hn, ht, hm⟩
    exact .intro hf hn ht hm

theorem parse_eq_ok_iff {line : String} {columns : List Column} :
    parse line = .ok columns ↔ List.Forall₂ Means (rows line.toList) columns := by
  have hdefines : Defines = fun part c => Means (fields part) c :=
    funext fun _ => funext fun _ => propext defines_iff
  rw [parse_eq_ok, ← map_fields_parts, List.forall₂_map_left_iff, hdefines]

/-- A comma keeps what stands before it apart from what stands behind it. -/
theorem rows_append_comma (as bs : List Char) : rows (as ++ ',' :: bs) = rows as ++ rows bs := by
  rw [rows, Text.split_append_sep, List.map_append, List.filter_append, rows, rows]

theorem rows_of_not_mem (h : ',' ∉ part) : rows part = [fields part].filter (· ≠ [[]]) := by
  rw [rows, Text.split_of_not_mem h, List.map_singleton]

theorem rows_blank (hg : Gap gap) : rows gap = [] := by
  rw [rows_of_not_mem (hg.not_mem (by decide)), List.filter_eq_nil_iff]
  simp [fields_eq_blank, Text.trim_of_blank hg]

theorem rows_gap (hg : Gap gap) (hb : Beside marks as bs) :
    rows (as ++ (gap ++ bs)) = rows (as ++ bs) := by
  obtain ⟨pre, l, r, post, hl, hln, hr, hrn, hsplit⟩ := Text.exists_split_append ',' as bs
  have hwith := hsplit gap (hg.not_mem (by decide))
  have hwithout := hsplit [] (by simp)
  rw [List.nil_append, List.nil_append] at hwithout
  have hbeside : Beside [':'] l r := by
    refine hb.imp (fun h c hc => ?_) (fun h c hc => ?_)
    · have hmark := h c (mem_getLast?_of_back hl hc)
      have hcomma : c ≠ ',' := fun he => hln (he ▸ List.mem_of_getLast? hc)
      simpa [marks, hcomma] using hmark
    · have hmark := h c (mem_head?_of_front hr hc)
      have hcomma : c ≠ ',' := fun he => hrn (he ▸ List.mem_of_mem_head? hc)
      simpa [marks, hcomma] using hmark
  rw [rows, rows, hwith, hwithout]
  simp only [List.map_append, List.map_cons, fields_gap hg hbeside]

def Starts (as : List Char) : Prop := ∀ c ∈ as.getLast?, c = ','

def Ends (bs : List Char) : Prop := ∀ c ∈ bs.head?, c = ','

theorem Starts.exists_rows (h : Starts as) : ∃ pre, ∀ bs, rows (as ++ bs) = pre ++ rows bs := by
  rcases List.eq_nil_or_concat as with rfl | ⟨init, last, rfl⟩
  · exact ⟨[], fun bs => rfl⟩
  · obtain rfl : last = ',' := h last (by simp)
    refine ⟨rows init, fun bs => ?_⟩
    rw [List.concat_eq_append, List.append_assoc, List.singleton_append, rows_append_comma]

theorem Ends.exists_rows (h : Ends bs) : ∃ post, ∀ as, rows (as ++ bs) = rows as ++ post := by
  cases bs with
  | nil => exact ⟨[], fun as => by rw [List.append_nil, List.append_nil]⟩
  | cons head t =>
    obtain rfl : head = ',' := h head rfl
    exact ⟨rows t, fun as => rows_append_comma as t⟩

theorem rows_blank_before (ha : Starts as) (hg : Gap gap) :
    rows (as ++ (gap ++ ',' :: bs)) = rows (as ++ bs) := by
  obtain ⟨pre, hpre⟩ := ha.exists_rows
  rw [hpre, hpre, rows_append_comma, rows_blank hg, List.nil_append]

theorem rows_blank_behind (hb : Ends bs) (hg : Gap gap) :
    rows (as ++ (',' :: gap ++ bs)) = rows (as ++ bs) := by
  obtain ⟨post, hpost⟩ := hb.exists_rows
  rw [hpost, ← List.append_assoc, hpost, rows_append_comma, rows_blank hg, List.append_nil]

end Scaffold.Column
