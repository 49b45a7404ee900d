import Scaffold.Proofs.Fallible
import Scaffold.Proofs.Model.Segments
import Scaffold.Proofs.Name.Spelling
import Scaffold.Proofs.Text.Blank

/-! # Printing fields

A canonical field has one written form, a part of a field line that reads as the field again.
Reading a line yields canonical fields only, so that what was read can be printed and read once
more.
-/

namespace Scaffold

namespace Name

variable {c : Char} {cs : List Char}

theorem isBlank_of_isTypeChar (h : isTypeChar c = true) (hs : c ≠ ' ') :
    Text.isBlank c = false := by
  simp only [isTypeChar, Bool.or_eq_true, beq_iff_eq] at h
  rcases h with ((((h | rfl) | rfl) | rfl) | rfl) | rfl
  · exact isBlank_of_isWordChar h
  · decide
  · decide
  · decide
  · exact absurd rfl hs
  · decide

theorem trimmed_of_isWordChar (h : ∀ c ∈ cs, isWordChar c = true) : Text.Trimmed cs := by
  constructor
  · intro c hc
    exact isBlank_of_isWordChar (h c (List.mem_of_mem_head? hc))
  · intro c hc
    exact isBlank_of_isWordChar (h c (List.mem_of_mem_getLast? hc))

theorem trimmed_of_isIdentifier (h : isIdentifier cs = true) : Text.Trimmed cs :=
  trimmed_of_isWordChar fun _ => isWordChar_of_mem h

theorem ne_nil_of_isTypeName (h : isTypeName cs = true) : cs ≠ [] := by
  rintro rfl
  cases h

theorem trimmed_of_isTypeName (h : isTypeName cs = true) (hs : cs.getLast? ≠ some ' ') :
    Text.Trimmed cs := by
  constructor
  · obtain ⟨d, t, rfl, hd, -⟩ := matchesB_iff.mp (Bool.and_eq_true_iff.mp h).1
    intro c hc
    cases hc
    exact isBlank_of_isWordChar (isWordChar_of_isWordStart hd)
  · intro c hc
    refine isBlank_of_isTypeChar (isTypeChar_of_mem h (List.mem_of_mem_getLast? hc)) ?_
    rintro rfl
    exact hs hc

end Name

namespace Field

open Name (isIdentifier isTypeName)

def text (f : Field) : List Char := f.name.toList ++ ':' :: f.shownType.toList

def print (fs : List Field) : String := String.ofList (Text.join [','] (fs.map text))

/-- A field whose written form reads as the field again. -/
structure Canonical (f : Field) : Prop where
  name : isIdentifier f.name.toList = true
  type : isTypeName f.type.toList = true
  trimmed : f.type.toList.getLast? ≠ some ' '
  enclosed : ∀ pre post, f.type.toList = pre ++ ',' :: post → pre.count '>' < pre.count '<'
  unmarked : f.nullable = false → f.type.toList.getLast? ≠ some '?'

variable {f : Field} {fs : List Field} {cs : List Char} {line : String}

theorem enclosed_iff :
    Enclosed 0 cs ↔ ∀ pre post, cs = pre ++ ',' :: post → pre.count '>' < pre.count '<' := by
  simp only [Enclosed, balance, Int.zero_add]
  constructor
  · intro h pre post he
    have := h pre post he
    omega
  · intro h pre post he
    have := h pre post he
    omega

/-- A type without the question mark at its end, and whether it had one. -/
def unmark (type : List Char) : List Char × Bool :=
  match Text.before? ['?'] type with
  | some rest => (Text.trimEnd rest, true)
  | none => (type, false)

theorem unmark_marked (type : List Char) : unmark (type ++ ['?']) = (Text.trimEnd type, true) := by
  rw [unmark, Text.before?_eq_some.mpr rfl]

theorem unmark_of_getLast? (h : cs.getLast? ≠ some '?') : unmark cs = (cs, false) := by
  rw [unmark, Text.before?_singleton_eq_none h]

theorem unmark_cases (cs : List Char) :
    (∃ type, cs = type ++ ['?'] ∧ unmark cs = (Text.trimEnd type, true)) ∨
      cs.getLast? ≠ some '?' ∧ unmark cs = (cs, false) := by
  by_cases h : cs.getLast? = some '?'
  · obtain ⟨type, rfl⟩ := List.getLast?_eq_some_iff.mp h
    exact Or.inl ⟨type, rfl, unmark_marked type⟩
  · exact Or.inr ⟨h, unmark_of_getLast? h⟩

def ofParts (name type : List Char) : Except Failure (Option Field) :=
  if name = [] ∨ type = [] then .ok none
  else do
    Name.checkIdentifier (String.ofList name) "field name"
    Name.checkTypeName (String.ofList (unmark type).1) "field type"
    return some ⟨String.ofList name, String.ofList (unmark type).1, (unmark type).2⟩

theorem ofSegment_eq (cs : List Char) :
    ofSegment cs =
      ofParts (Text.trim (Text.cut ':' cs).1) (Text.trim ((Text.cut ':' cs).2.getD [])) := rfl

theorem ofParts_eq_some {name type : List Char} :
    ofParts name type = .ok (some f) ↔
      name ≠ [] ∧ type ≠ [] ∧ isIdentifier name = true ∧ isTypeName (unmark type).1 = true ∧
        f = ⟨String.ofList name, String.ofList (unmark type).1, (unmark type).2⟩ := by
  rw [ofParts]
  split
  · rename_i h
    constructor
    · intro h
      cases h
    · rintro ⟨hn, ht, -⟩
      exact absurd h (not_or.mpr ⟨hn, ht⟩)
  · rename_i h
    obtain ⟨hn, ht⟩ := not_or.mp h
    rw [check_bind_eq_ok, check_bind_eq_ok, Name.checkIdentifier_eq_ok, Name.checkTypeName_eq_ok,
      String.toList_ofList, String.toList_ofList]
    constructor
    · rintro ⟨hi, hc, he⟩
      cases he
      exact ⟨hn, ht, hi, hc, rfl⟩
    · rintro ⟨-, -, hi, hc, rfl⟩
      exact ⟨hi, hc, rfl⟩

theorem toList_shownType (f : Field) :
    f.shownType.toList = f.type.toList ++ if f.nullable then ['?'] else [] := by
  rw [shownType]
  split <;> simp

theorem Canonical.trimmed_type (h : f.Canonical) : Text.Trimmed f.type.toList :=
  Name.trimmed_of_isTypeName h.type h.trimmed

theorem Canonical.type_ne_nil (h : f.Canonical) : f.type.toList ≠ [] :=
  Name.ne_nil_of_isTypeName h.type

/-! ### Writing -/

theorem Canonical.trimmed_shownType (h : f.Canonical) : Text.Trimmed f.shownType.toList := by
  rw [toList_shownType]
  split
  · have hm : Text.Trimmed ['?'] := by decide
    have : Text.Trimmed (f.type.toList ++ [] ++ ['?']) :=
      h.trimmed_type.append hm h.type_ne_nil (List.cons_ne_nil _ _)
    rwa [List.append_nil] at this
  · rw [List.append_nil]
    exact h.trimmed_type

theorem isSegment_of_plain (h : ∀ c ∈ cs, c ≠ ',' ∧ c ≠ '<' ∧ c ≠ '>') : IsSegment cs where
  enclosed := enclosed_of_not_mem fun hm => (h _ hm).1 rfl
  balance := balance_eq_zero fun c hc => (h c hc).2

theorem IsSegment.append {ds : List Char} (h : IsSegment cs) (hd : IsSegment ds) :
    IsSegment (cs ++ ds) where
  enclosed := enclosed_append.mpr ⟨h.enclosed, by simpa [h.balance] using hd.enclosed⟩
  balance := by rw [balance_append, h.balance, hd.balance, Int.add_zero]

theorem isSegment_of_isIdentifier (h : isIdentifier cs = true) : IsSegment cs := by
  refine isSegment_of_plain fun c hc => ?_
  have hw := Name.isWordChar_of_mem h hc
  refine ⟨?_, ?_, ?_⟩ <;> rintro rfl <;> exact absurd hw (by decide)

theorem Canonical.isSegment_type (h : f.Canonical) : IsSegment f.type.toList where
  enclosed := enclosed_iff.mpr h.enclosed
  balance := by
    have := (Bool.and_eq_true_iff.mp h.type).2
    rw [beq_iff_eq] at this
    rw [balance]
    omega

theorem Canonical.isSegment_text (h : f.Canonical) : IsSegment f.text := by
  have hm : IsSegment (if f.nullable then ['?'] else []) := by
    split <;> exact isSegment_of_plain (by simp)
  have hc : IsSegment [':'] := isSegment_of_plain (by simp)
  rw [text, toList_shownType, ← List.singleton_append]
  exact (isSegment_of_isIdentifier h.name).append (hc.append (h.isSegment_type.append hm))

theorem Canonical.ofSegment_text (h : f.Canonical) : ofSegment f.text = .ok (some f) := by
  have hn : f.name.toList ≠ [] := Name.ne_nil_of_isIdentifier h.name
  have ht : f.shownType.toList ≠ [] := by
    rw [toList_shownType]
    exact List.append_ne_nil_of_left_ne_nil h.type_ne_nil _
  have hcut : Text.cut ':' f.text = (f.name.toList, some f.shownType.toList) :=
    Text.cut_append_cons (Name.not_mem_of_isIdentifier h.name (by decide))
  have hmark : unmark f.shownType.toList = (f.type.toList, f.nullable) := by
    rw [toList_shownType]
    cases hm : f.nullable with
    | true =>
      rw [if_pos rfl, unmark_marked, Text.trimEnd_of_getLast? h.trimmed_type.2]
    | false =>
      rw [if_neg Bool.false_ne_true, List.append_nil, unmark_of_getLast? (h.unmarked hm)]
  rw [ofSegment_eq, hcut, Option.getD_some,
    Text.trim_of_trimmed (Name.trimmed_of_isIdentifier h.name),
    Text.trim_of_trimmed h.trimmed_shownType, ofParts_eq_some, hmark]
  exact ⟨hn, ht, h.name, h.type, by simp only [String.ofList_toList]⟩

/-- Canonical fields are read back from the line that writes them. -/
theorem parse_print (h : ∀ f ∈ fs, f.Canonical) : parse (print fs) = .ok fs := by
  rcases eq_or_ne fs [] with rfl | hn
  · decide
  have hs : segments (print fs).toList = fs.map text := by
    rw [print, String.toList_ofList]
    refine segments_join (by simpa using hn) ?_
    rw [List.forall_mem_map]
    exact fun f hf => (h f hf).isSegment_text
  have hm : (fs.map text).mapM ofSegment = .ok (fs.map some) := by
    rw [mapM_eq_ok, List.forall₂_map_left_iff, List.forall₂_map_right_iff, List.forall₂_same]
    exact fun f hf => (h f hf).ofSegment_text
  rw [parse, hs, hm]
  simp [Except.bind, Bind.bind, Pure.pure, Except.pure]

/-! ### Reading -/

theorem balance_of_isBlank (h : ∀ c ∈ cs, Text.isBlank c = true) : balance cs = 0 := by
  apply balance_eq_zero
  intro c hc
  have hb := h c hc
  constructor <;> rintro rfl <;> exact absurd hb (by decide)

theorem balance_of_trim (h : isIdentifier (Text.trim cs) = true) : balance cs = 0 := by
  obtain ⟨lead, tail, he, hl, ht⟩ := Text.trim_append cs
  rw [he, balance_append, balance_append, (isSegment_of_isIdentifier h).balance,
    balance_of_isBlank hl, balance_of_isBlank ht]
  rfl

/-- The type in a part of a line keeps its commas inside brackets. -/
theorem enclosed_type {name type : List Char} (he : Enclosed 0 (name ++ ':' :: type))
    (hn : isIdentifier (Text.trim name) = true) : Enclosed 0 (Text.trim type) := by
  obtain ⟨lead, tail, ht, hl, -⟩ := Text.trim_append type
  obtain ⟨-, he⟩ := enclosed_append.mp he
  obtain ⟨-, he⟩ := enclosed_cons.mp he
  rw [ht, enclosed_append, enclosed_append] at he
  have hc : balance [':'] = 0 := by decide
  simpa [balance_of_trim hn, balance_of_isBlank hl, hc] using he.1.2

theorem enclosed_unmark (h : Enclosed 0 cs) : Enclosed 0 (unmark cs).1 := by
  rcases unmark_cases cs with ⟨type, rfl, hu⟩ | ⟨-, hu⟩
  · obtain ⟨tail, ht, -⟩ := Text.trimEnd_append type
    rw [enclosed_append, ht, enclosed_append] at h
    rw [hu]
    exact h.1.1
  · rwa [hu]

theorem unmark_getLast? (h : ∀ c ∈ cs.getLast?, Text.isBlank c = false) :
    ∀ c ∈ (unmark cs).1.getLast?, Text.isBlank c = false := by
  rcases unmark_cases cs with ⟨type, -, hu⟩ | ⟨-, hu⟩
  · rw [hu]
    exact Text.trimEnd_getLast? type
  · rwa [hu]

theorem unmark_unmarked (h : (unmark cs).2 = false) : (unmark cs).1.getLast? ≠ some '?' := by
  rcases unmark_cases cs with ⟨type, -, hu⟩ | ⟨hn, hu⟩
  · rw [hu] at h
    cases h
  · rwa [hu]

theorem Canonical.of_ofSegment (he : Enclosed 0 cs) (h : ofSegment cs = .ok (some f)) :
    f.Canonical := by
  rw [ofSegment_eq, ofParts_eq_some] at h
  obtain ⟨-, ht, hname, htype, rfl⟩ := h
  cases hcut : Text.cut ':' cs with
  | mk name type =>
    rw [hcut] at ht hname htype
    cases type with
    | none => exact absurd rfl ht
    | some type =>
      rw [Text.eq_of_cut_eq_some hcut] at he
      dsimp only [Option.getD_some] at htype ⊢
      have henc := enclosed_iff.mp (enclosed_unmark (enclosed_type he hname))
      have hend := unmark_getLast? (Text.trimmed_trim type).2
      constructor <;> simp only [String.toList_ofList]
      · exact hname
      · exact htype
      · intro hs
        exact absurd (hend _ hs) (by decide)
      · exact henc
      · exact unmark_unmarked

/-- Reading yields canonical fields. -/
theorem canonical_of_parse (h : parse line = .ok fs) : ∀ f ∈ fs, f.Canonical := by
  intro f hf
  obtain ⟨os, hos, h⟩ := bind_eq_ok.mp h
  cases h
  obtain ⟨cs, hcs, ho⟩ := exists_of_mem_filterMap hos hf
  exact .of_ofSegment (enclosed_of_mem_segments hcs) ho

/-- Canonical fields are read back from the line that writes them, and reading yields no others,
so that the fields of a line are read back as well. -/
theorem canonical_round_trip :
    (∀ fs : List Field, (∀ f ∈ fs, f.Canonical) → parse (print fs) = .ok fs) ∧
    ∀ (line : String) (fs : List Field), parse line = .ok fs →
      (∀ f ∈ fs, f.Canonical) ∧ parse (print fs) = .ok fs :=
  ⟨fun _ h => parse_print h, fun _ _ h =>
    ⟨canonical_of_parse h, parse_print (canonical_of_parse h)⟩⟩

end Field

end Scaffold
