import Mathlib.Data.List.Infix
import Scaffold.Proofs.Name.Grammar

/-! # Types in a text

Of a type it is checked that it has as many brackets of one kind as of the other, but not that the
one comes before the other. Where a type is written, a bracket that it closes without having opened
it is the one around it, and a bracket that it opens without closing it goes on behind it. Reading a
type finds its end where its brackets are closed.
-/

namespace Scaffold.Name

variable {after rest cs : List Char} {d : ℕ}

/-- No bracket is closed before it is opened. -/
def Nested (cs : List Char) : Prop := ∀ p, p <+: cs → p.count '>' ≤ p.count '<'

instance (cs : List Char) : Decidable (Nested cs) :=
  decidable_of_iff (∀ p ∈ cs.inits, p.count '>' ≤ p.count '<') <| by
    simp only [List.mem_inits, Nested]

/-! ### The bracket around a type -/

/-- How many brackets are open behind a character, if it is not the one that closes the bracket
around them. -/
def depth? (d : ℕ) (c : Char) : Option ℕ :=
  if c = '<' then some (d + 1)
  else if c = '>' then if d = 0 then none else some (d - 1)
  else some d

/-- How many characters stand before the one that closes the bracket around a text, when `d` more
brackets are open. -/
def closing (d : ℕ) : List Char → Option ℕ
  | [] => none
  | c :: cs =>
    match depth? d c with
    | none => some 0
    | some d' => (closing d' cs).map (· + 1)

variable {c : Char} {d' : ℕ}

theorem depth?_eq_none (h : depth? d c = none) (cs : List Char) :
    d + (c :: cs).count '<' + cs.count '>' < cs.count '<' + (c :: cs).count '>' := by
  unfold depth? at h
  split at h
  · cases h
  · split at h
    · rename_i hc
      subst hc
      split at h
      · rename_i hd
        simp [hd]
      · cases h
    · cases h

theorem depth?_eq_some (h : depth? d c = some d') (cs : List Char) :
    d + (c :: cs).count '<' + cs.count '>' = d' + cs.count '<' + (c :: cs).count '>' := by
  unfold depth? at h
  split at h
  · rename_i ho
    cases h
    simp [ho]
    omega
  · split at h
    · rename_i hc
      split at h
      · cases h
      · cases h
        simp [hc]
        omega
    · cases h
      simp_all

theorem map_add_map (o : Option ℕ) (n : ℕ) :
    (o.map (· + n)).map (· + 1) = o.map (· + (n + 1)) := by
  rw [Option.map_map]
  rfl

/-- A text whose brackets are opened first leaves those around it to what follows. -/
theorem closing_append (h : ∀ p, p <+: cs → p.count '>' ≤ d + p.count '<') (after : List Char) :
    closing d (cs ++ after) =
      (closing (d + cs.count '<' - cs.count '>') after).map (· + cs.length) := by
  induction cs generalizing d with
  | nil => simp
  | cons c cs ih =>
    rw [List.cons_append, closing]
    cases hc : depth? d c with
    | none =>
      have hlt := depth?_eq_none hc []
      have hle := h [c] (List.cons_prefix_cons.mpr ⟨rfl, List.nil_prefix⟩)
      simp at hlt
      omega
    | some d' =>
      have hinner : ∀ p, p <+: cs → p.count '>' ≤ d' + p.count '<' := by
        intro p hp
        have hle := h (c :: p) (List.cons_prefix_cons.mpr ⟨rfl, hp⟩)
        have hd := depth?_eq_some hc p
        omega
      have hsame : d' + cs.count '<' - cs.count '>' =
          d + (c :: cs).count '<' - (c :: cs).count '>' := by
        have hd := depth?_eq_some hc cs
        omega
      dsimp only
      rw [ih hinner, map_add_map, hsame, List.length_cons]

theorem exists_closing_lt {p : List Char} (hp : p <+: cs)
    (h : d + p.count '<' < p.count '>') (after : List Char) :
    ∃ n < cs.length, closing d (cs ++ after) = some n := by
  induction cs generalizing d p with
  | nil =>
    obtain rfl := List.prefix_nil.mp hp
    simp at h
  | cons c cs ih =>
    rcases List.prefix_cons_iff.mp hp with rfl | ⟨t, rfl, ht⟩
    · simp at h
    rw [List.cons_append, closing, List.length_cons]
    cases hc : depth? d c with
    | none => exact ⟨0, by omega, rfl⟩
    | some d' =>
      have hd := depth?_eq_some hc t
      have hinner : d' + t.count '<' < t.count '>' := by omega
      obtain ⟨n, hn, heq⟩ := ih ht hinner
      refine ⟨n + 1, by omega, ?_⟩
      dsimp only
      rw [heq]
      rfl

/-- A text with as many brackets of one kind as of the other leaves the bracket around it to what
follows if it closes none before it has opened it, and only then. -/
theorem closing_append_iff (hpaired : cs.count '<' = cs.count '>') (after : List Char) :
    closing 0 (cs ++ after) = (closing 0 after).map (· + cs.length) ↔ Nested cs := by
  constructor
  · intro h p hp
    by_contra hlt
    have hopen : 0 + p.count '<' < p.count '>' := by omega
    obtain ⟨n, hn, heq⟩ := exists_closing_lt hp hopen after
    rw [heq] at h
    obtain ⟨m, -, hm⟩ := Option.map_eq_some_iff.mp h.symm
    omega
  · intro h
    have hprefix : ∀ p, p <+: cs → p.count '>' ≤ 0 + p.count '<' := by
      intro p hp
      have := h p hp
      omega
    rw [closing_append hprefix, hpaired, Nat.zero_add, Nat.sub_self]

/-! ### Reading a type -/

/-- What a reader of a type has just read: nothing of it, its name, blanks behind the name, its
arguments, or the question mark at its end. -/
inductive Stage
  | start
  | name
  | behind
  | closed
  | marked
  deriving DecidableEq, Repr

namespace Stage

def punctuate (s : Stage) (d : ℕ) (c : Char) : Option (Stage × ℕ) :=
  if c = '<' ∧ (s = name ∨ s = behind) then some (start, d + 1)
  else if c = '?' ∧ s ≠ marked then some (marked, d)
  else if d = 0 then none
  else if c = ',' then some (start, d)
  else if c = '>' then some (closed, d - 1)
  else none

def pause : Stage → Stage
  | name => behind
  | start => start
  | behind => behind
  | closed => closed
  | marked => marked

def step (s : Stage) (d : ℕ) (c : Char) : Option (Stage × ℕ) :=
  if c = ' ' then some (s.pause, d)
  else if s = start then if isWordStart c then some (name, d) else none
  else if s = name ∧ isWordChar c = true then some (name, d)
  else s.punctuate d c

/-- What is left of a text when the type at its head has been read as far as it goes. -/
def read (s : Stage) (d : ℕ) : List Char → Option (List Char)
  | [] => if s ≠ start ∧ d = 0 then some [] else none
  | c :: cs =>
    match s.step d c with
    | some (s', d') => s'.read d' cs
    | none => if s ≠ start ∧ d = 0 then some (c :: cs) else none

end Stage

def afterType (cs : List Char) : Option (List Char) := Stage.start.read 0 cs

variable {s s' : Stage}

theorem Stage.pause_eq_start : s.pause = start ↔ s = start := by
  cases s <;> simp [pause]

theorem Stage.pause_ne_name : s.pause ≠ name := by
  cases s <;> simp [pause]

theorem Stage.depth?_of_step (h : s.step d c = some (s', d')) : depth? d c = some d' := by
  unfold depth?
  by_cases ho : c = '<'
  · subst ho
    have hw : isWordStart '<' = false ∧ isWordChar '<' = false := by decide
    simp only [step, punctuate, hw] at h
    simp at h
    grind
  by_cases hc : c = '>'
  · subst hc
    have hw : isWordStart '>' = false ∧ isWordChar '>' = false := by decide
    simp only [step, punctuate, hw] at h
    simp at h
    grind
  · simp only [step, punctuate, ho, hc] at h
    simp [ho, hc] at h ⊢
    grind

theorem Stage.suffix_of_read (h : s.read d cs = some rest) : rest <:+ cs := by
  induction cs generalizing s d with
  | nil =>
    simp only [read, Option.ite_none_right_eq_some, Option.some.injEq] at h
    obtain ⟨-, rfl⟩ := h
    exact List.suffix_rfl
  | cons c cs ih =>
    rw [read] at h
    split at h
    · exact (ih h).trans (List.suffix_cons c cs)
    · simp only [Option.ite_none_right_eq_some, Option.some.injEq] at h
      obtain ⟨-, rfl⟩ := h
      exact List.suffix_rfl

theorem Stage.read_ne (h : cs.length < rest.length) : s.read d cs ≠ some rest := by
  intro hr
  have := (suffix_of_read hr).length_le
  omega

/-- A text that is read to its end closes no bracket before it has opened it. -/
theorem Stage.prefix_of_read (h : s.read d cs = some []) {p : List Char} (hp : p <+: cs) :
    p.count '>' ≤ d + p.count '<' := by
  induction cs generalizing s d p with
  | nil =>
    obtain rfl := List.prefix_nil.mp hp
    simp
  | cons c cs ih =>
    rw [read] at h
    split at h
    · rename_i s' d' hstep
      rcases List.prefix_cons_iff.mp hp with rfl | ⟨t, rfl, ht⟩
      · simp
      · have hdepth := depth?_eq_some (depth?_of_step hstep) t
        have hrest := ih h ht
        omega
    · simp at h

/-- What stands behind a type in a text: the bracket that is closed around it, or a name. -/
inductive Delimited : List Char → Prop
  | bracket (t : List Char) : Delimited ('>' :: t)
  | name {c : Char} (t : List Char) : isWordStart c = true → Delimited (' ' :: c :: t)

def unblanked (cs : List Char) : List Char := cs.dropWhile (· == ' ')

/-- A bracket that nothing opened ends a type, and so does the start of a name behind a blank. -/
theorem Stage.read_delimited (h : Delimited after) :
    s.read d after = some (unblanked after) ↔ s ≠ start ∧ d = 0 := by
  cases h with
  | bracket t =>
    have hun : unblanked ('>' :: t) = '>' :: t := List.dropWhile_cons_of_neg (by decide)
    have hw : isWordStart '>' = false ∧ isWordChar '>' = false := by decide
    rw [hun, read]
    split
    · rename_i s' d' hstep
      refine iff_of_false (read_ne (by simp)) ?_
      rintro ⟨hs, rfl⟩
      simp [step, punctuate, hw, hs] at hstep
    · simp
  | @name c t hc =>
    have hne : c ≠ ' ' ∧ c ≠ '<' ∧ c ≠ '?' ∧ c ≠ ',' ∧ c ≠ '>' := by
      refine ⟨?_, ?_, ?_, ?_, ?_⟩ <;>
      · rintro rfl
        exact absurd hc (by decide)
    have hun : unblanked (' ' :: c :: t) = c :: t := by
      rw [unblanked, List.dropWhile_cons_of_pos rfl, List.dropWhile_cons_of_neg (by simp [hne])]
    have hblank : s.step d ' ' = some (s.pause, d) := if_pos rfl
    rw [hun, read, hblank]
    dsimp only
    rw [read]
    by_cases hs : s = start
    · have hstep : s.pause.step d c = some (name, d) := by
        simp [step, hne, hs, pause, hc]
      rw [hstep]
      exact iff_of_false (read_ne (by simp)) fun h => h.1 hs
    · have hstep : s.pause.step d c = none := by
        simp [step, punctuate, hne, pause_eq_start, hs, pause_ne_name]
      rw [hstep]
      simp [pause_eq_start]

theorem Stage.read_append_iff (h : Delimited after) :
    s.read d (cs ++ after) = some (unblanked after) ↔ s.read d cs = some [] := by
  induction cs generalizing s d with
  | nil =>
    rw [List.nil_append, read_delimited h, read]
    simp
  | cons c cs ih =>
    rw [List.cons_append, read, read]
    split
    · exact ih
    · have hlen : unblanked after ≠ c :: (cs ++ after) := by
        intro he
        have := congrArg List.length he
        have := (List.dropWhile_suffix (l := after) (· == ' ')).length_le
        simp [unblanked] at *
        omega
      simp [hlen.symm]

example : afterType "Map<String, List<int>?>? all".toList = some "all".toList := by decide

example : afterType "A>B<> first".toList = some ">B<> first".toList := by decide

/-! ### Types between other text -/

theorem paired_of_isTypeName (h : isTypeName cs = true) : cs.count '<' = cs.count '>' :=
  beq_iff_eq.mp (Bool.and_eq_true_iff.mp h).2

/-- An accepted type in front of other text. It has as many brackets of one kind as of the other,
but it leaves the bracket around it alone only if it is nested, and it is read to its end only if it
is one type by itself. -/
structure Stands (type after : List Char) : Prop where
  accepted : isTypeName type = true
  paired : type.count '<' = type.count '>'
  closing_iff : closing 0 (type ++ after) = (closing 0 after).map (· + type.length) ↔ Nested type
  read_iff : afterType (type ++ after) = some (unblanked after) ↔ afterType type = some []
  nested_of_read : afterType type = some [] → Nested type

theorem stands (h : isTypeName type = true) (hd : Delimited after) : Stands type after where
  accepted := h
  paired := paired_of_isTypeName h
  closing_iff := closing_append_iff (paired_of_isTypeName h) after
  read_iff := Stage.read_append_iff hd
  nested_of_read hr p hp := by
    rw [← Nat.zero_add (p.count '<')]
    exact Stage.prefix_of_read hr hp

theorem isTypeName_append_mark (h : isTypeName cs = true) :
    isTypeName (cs ++ ['?']) = true := by
  obtain ⟨hm, hcount⟩ := Bool.and_eq_true_iff.mp h
  obtain ⟨c, t, rfl, hc, ht⟩ := matchesB_iff.mp hm
  refine Bool.and_eq_true_iff.mpr ⟨matchesB_iff.mpr ⟨c, t ++ ['?'], rfl, hc, ?_⟩, ?_⟩
  · intro x hx
    rcases List.mem_append.mp hx with hx | hx
    · exact ht x hx
    · rw [List.mem_singleton.mp hx]
      decide
  · rw [beq_iff_eq] at hcount ⊢
    simp only [List.count_append, hcount]
    rfl

end Scaffold.Name
