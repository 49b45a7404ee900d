import Mathlib.Data.List.Basic
import Scaffold.Proofs.Name.Grammar
import Scaffold.Text.Split

/-! # The tokens of code

A lexer for languages that have words, marks, literals between single quotes and maybe numbers. It
knows no comments, no escapes but that of the quote, and nothing that is evaluated inside of a
literal. A number goes on as far as its characters do and must then be a decimal one. A text that
the lexer cannot read to the end has no tokens at all. What it reads after a separator does not
depend on what stood before.
-/

namespace Scaffold.Code

def isSpace (c : Char) : Bool := [' ', '\t', '\n', '\r', '\x0b', '\x0c'].contains c

def isDigit (c : Char) : Bool := '0' ≤ c && c ≤ '9'

def isSign (c : Char) : Bool := c == '+' || c == '-'

def isDigits (cs : List Char) : Bool := cs != [] && cs.all isDigit

def dropSign : List Char → List Char
  | [] => []
  | c :: cs => if isSign c then cs else c :: cs

/-- Digits, maybe with a sign before them, a fraction and an exponent. -/
def isNumeral (cs : List Char) : Bool :=
  let (mantissa, exponent) := Text.cut 'e' (cs.map fun c => if c = 'E' then 'e' else c)
  let (whole, fraction) := Text.cut '.' (dropSign mantissa)
  isDigits whole && fraction.all isDigits && exponent.all fun e => isDigits (dropSign e)

inductive Token
  | word (text : String)
  | number (text : String)
  | mark (c : Char)
  | literal (text : String)
  deriving DecidableEq, Repr

def isNumberChar (c : Char) : Bool := Name.isWordChar c || c == '.' || isSign c

/-- What is no part of other tokens, but for the dot in a number. -/
def isApart (c : Char) : Bool :=
  !Name.isWordChar c && (!isNumberChar c || c == '.') && c != '\'' && !isSpace c

/-- What sets a language apart: its marks, whether a quote inside of a literal is doubled or stands
after a backslash, and whether there are numbers. -/
structure Dialect where
  marks : List Char
  doubles : Bool
  numbers : Bool
  apart : marks.all isApart = true

def Dialect.guard (d : Dialect) : Char := if d.doubles then '\'' else '\\'

inductive State
  | gap
  | word (read : List Char)
  | number (read : List Char)
  | literal (read : List Char)
  | escape (read : List Char)
  | quote (read : List Char)
  deriving DecidableEq, Repr

/-- What stands as it is in a literal of a dialect with a backslash. -/
def isPlain (c : Char) : Bool := !(['\\', '$', '\n', '\r'].contains c)

def finish : State → Option (List Token)
  | .gap => some []
  | .word read => some [.word (String.ofList read)]
  | .number read => if isNumeral read then some [.number (String.ofList read)] else none
  | .literal _ | .escape _ => none
  | .quote read => some [.literal (String.ofList read)]

section Dialects

variable (d : Dialect)

/-- What a character does that does not go on with a token. -/
def start (c : Char) : Option (List Token × State) :=
  if isSpace c then some ([], .gap)
  else if d.marks.contains c then some ([.mark c], .gap)
  else if Name.isWordStart c then some ([], .word [c])
  else if c = '\'' then some ([], .literal [])
  else if d.numbers && (isDigit c || isSign c) then some ([], .number [c])
  else none

def next (s : State) (c : Char) : Option (List Token × State) :=
  (finish s).bind fun ts => (start d c).map fun (us, s') => (ts ++ us, s')

def step (s : State) (c : Char) : Option (List Token × State) :=
  match s with
  | .gap => next d .gap c
  | .word read =>
    if Name.isWordChar c then some ([], .word (read ++ [c])) else next d (.word read) c
  | .number read =>
    if isNumberChar c then some ([], .number (read ++ [c])) else next d (.number read) c
  | .literal read =>
    if c = '\'' then some ([], .quote read)
    else if d.doubles || isPlain c then some ([], .literal (read ++ [c]))
    else if c = '\\' then some ([], .escape read)
    else none
  | .escape read => if c = '\'' then some ([], .literal (read ++ [c])) else none
  | .quote read =>
    if d.doubles && c == '\'' then some ([], .literal (read ++ [c])) else next d (.quote read) c

def run : State → List Char → Option (List Token)
  | s, [] => finish s
  | s, c :: cs => (step d s c).bind fun (ts, s') => (run s' cs).map (ts ++ ·)

def lex (cs : List Char) : Option (List Token) := run d .gap cs

/-- What ends every token before it. A dot could go on with a number. -/
def isSeparator (c : Char) : Bool := isSpace c || d.marks.contains c && c != '.'

def mark? (c : Char) : List Token := if isSpace c then [] else [.mark c]

end Dialects

variable {d : Dialect} {c : Char} {as bs cs read : List Char} {ts us : List Token} {s s' : State}

theorem run_cons (h : step d s c = some (ts, s')) :
    run d s (c :: cs) = (run d s' cs).map (ts ++ ·) := by
  rw [run, h]
  rfl

theorem step_gap (h : start d c = some (ts, s)) : step d .gap c = some (ts, s) := by
  rw [step, next, finish, h]
  rfl

theorem isSpace_apart (h : isSpace c = true) :
    Name.isWordChar c = false ∧ isNumberChar c = false ∧ c ≠ '\'' := by
  simp only [isSpace, List.contains_iff_mem] at h
  have ha : [' ', '\t', '\n', '\r', '\x0b', '\x0c'].all
      (fun c => !Name.isWordChar c && !isNumberChar c && c != '\'') = true := by decide
  simpa [and_assoc] using List.all_eq_true.mp ha c h

theorem mark_apart (h : c ∈ d.marks) : Name.isWordChar c = false ∧
    (isNumberChar c = true → c = '.') ∧ c ≠ '\'' ∧ isSpace c = false := by
  have ha := List.all_eq_true.mp d.apart c h
  simp only [isApart, Bool.and_eq_true, Bool.not_eq_true', Bool.or_eq_true, beq_iff_eq,
    bne_iff_ne] at ha
  obtain ⟨⟨⟨hw, hn⟩, hq⟩, hs⟩ := ha
  refine ⟨hw, fun hc => ?_, hq, hs⟩
  rwa [hc, Bool.true_eq_false, false_or] at hn

theorem isSeparator_apart (h : isSeparator d c = true) :
    Name.isWordChar c = false ∧ isNumberChar c = false ∧ c ≠ '\'' := by
  rw [isSeparator, Bool.or_eq_true, Bool.and_eq_true, List.contains_iff_mem, bne_iff_ne] at h
  rcases h with h | ⟨hm, hdot⟩
  · exact isSpace_apart h
  · obtain ⟨hw, hn, hq, -⟩ := mark_apart hm
    exact ⟨hw, eq_false_of_ne_true (mt hn hdot), hq⟩

theorem start_mark (h : c ∈ d.marks) : start d c = some ([.mark c], .gap) := by
  obtain ⟨-, -, -, hs⟩ := mark_apart h
  simp [start, hs, h]

theorem start_separator (h : isSeparator d c = true) : start d c = some (mark? c, .gap) := by
  rw [isSeparator, Bool.or_eq_true, Bool.and_eq_true] at h
  rw [start, mark?]
  split
  · rfl
  · simp_all

theorem start_of_apart (hs : isSpace c = false) (hm : c ∉ d.marks) : start d c =
    if Name.isWordStart c then some ([], .word [c])
    else if c = '\'' then some ([], .literal [])
    else if d.numbers && (isDigit c || isSign c) then some ([], .number [c]) else none := by
  rw [start, hs, if_neg Bool.false_ne_true, if_neg (by simpa using hm)]

theorem start_wordStart (h : Name.isWordStart c = true) : start d c = some ([], .word [c]) := by
  have hw : Name.isWordChar c ≠ false := by simp [Name.isWordChar_of_isWordStart h]
  have hs : isSpace c = false := eq_false_of_ne_true fun hs => hw (isSpace_apart hs).1
  rw [start_of_apart hs fun hm => hw (mark_apart hm).1, if_pos h]

theorem start_quote : start d '\'' = some ([], .literal []) :=
  start_of_apart rfl fun hm => (mark_apart hm).2.2.1 rfl

/-- A separator ends the token before it. -/
theorem step_separator (h : isSeparator d c = true) (hs : finish s = some ts) :
    step d s c = some (ts ++ mark? c, .gap) := by
  obtain ⟨hw, hn, hq⟩ := isSeparator_apart h
  have hnext : next d s c = some (ts ++ mark? c, .gap) := by
    rw [next, hs, start_separator h]
    rfl
  cases s with
  | gap => exact hnext
  | word read => simpa [step, hw] using hnext
  | number read => simpa [step, hn] using hnext
  | literal read => cases hs
  | escape read => cases hs
  | quote read => simpa [step, hq] using hnext

theorem run_separator (h : isSeparator d c = true) (hs : run d s as = some ts) :
    run d s (as ++ c :: cs) = (lex d cs).map (ts ++ mark? c ++ ·) := by
  induction as generalizing s ts with
  | nil =>
    rw [List.nil_append, run_cons (step_separator h hs)]
    rfl
  | cons a as ih =>
    rw [run, Option.bind_eq_some_iff] at hs
    obtain ⟨⟨us, s'⟩, hstep, hrun⟩ := hs
    obtain ⟨vs, hv, rfl⟩ := Option.map_eq_some_iff.mp hrun
    rw [List.cons_append, run_cons hstep, ih hv, Option.map_map]
    simp only [Function.comp_def, List.append_assoc]

theorem lex_mark (hc : c ∈ d.marks) : lex d (c :: cs) = (lex d cs).map (.mark c :: ·) :=
  run_cons (step_gap (start_mark hc))

/-- The tokens of a text go on with those of another one that starts with a separator. -/
theorem lex_append (ha : lex d as = some ts) (hb : lex d bs = some us)
    (hs : bs.head?.all (isSeparator d) = true) : lex d (as ++ bs) = some (ts ++ us) := by
  cases bs with
  | nil =>
    cases hb
    simpa using ha
  | cons c bs =>
    have hc : isSeparator d c = true := hs
    have hstep : step d .gap c = some (mark? c, .gap) := step_gap (start_separator hc)
    rw [lex, run_cons hstep] at hb
    obtain ⟨vs, hv, rfl⟩ := Option.map_eq_some_iff.mp hb
    have hv' : lex d bs = some vs := hv
    rw [lex, run_separator hc ha, hv', Option.map_some, List.append_assoc]

/-- A text with these tokens that ends the token before it, whatever that is. -/
structure Clause (d : Dialect) (as : List Char) (ts : List Token) : Prop where
  lex_eq : lex d as = some ts
  apart : as.head?.all (isSeparator d) = true

theorem Clause.nil : Clause d [] [] := ⟨rfl, rfl⟩

theorem Clause.append (ha : Clause d as ts) (hb : Clause d bs us) :
    Clause d (as ++ bs) (ts ++ us) where
  lex_eq := lex_append ha.lex_eq hb.lex_eq hb.apart
  apart := by
    cases as with
    | nil => exact hb.apart
    | cons c as => exact ha.apart

theorem Clause.space (h : lex d cs = some ts) : Clause d (' ' :: cs) ts := by
  refine ⟨?_, rfl⟩
  have hstep : step d .gap ' ' = some ([], .gap) := step_gap rfl
  have hcs : run d .gap cs = some ts := h
  rw [lex, run_cons hstep, hcs]
  rfl

theorem Clause.mark (hc : c ∈ d.marks) (hn : c ≠ '.') (h : lex d cs = some ts) :
    Clause d (c :: cs) (.mark c :: ts) := by
  refine ⟨by rw [lex_mark hc, h]; rfl, ?_⟩
  simp [isSeparator, hc, hn]

theorem run_word (h : ∀ c ∈ cs, Name.isWordChar c = true) :
    run d (.word read) (cs ++ as) = run d (.word (read ++ cs)) as := by
  induction cs generalizing read with
  | nil => simp
  | cons c cs ih =>
    obtain ⟨hc, hs⟩ := List.forall_mem_cons.mp h
    have hstep : step d (.word read) c = some ([], .word (read ++ [c])) := if_pos hc
    rw [List.cons_append, run_cons hstep, ih hs]
    simp

theorem lex_identifier_append (h : Name.isIdentifier cs = true) :
    lex d (cs ++ as) = run d (.word cs) as := by
  obtain ⟨c, t, rfl, hc, ht⟩ := Name.isIdentifier_iff.mp h
  rw [lex, List.cons_append, run_cons (step_gap (start_wordStart hc)), run_word ht]
  simp

theorem lex_identifier (h : Name.isIdentifier cs = true) :
    lex d cs = some [.word (String.ofList cs)] := by
  rw [← List.append_nil cs, lex_identifier_append h, List.append_nil]
  rfl

/-- A mark ends a word, even a dot. -/
theorem lex_identifier_mark (h : Name.isIdentifier cs = true) (hc : c ∈ d.marks)
    (ha : lex d as = some ts) :
    lex d (cs ++ c :: as) = some (.word (String.ofList cs) :: .mark c :: ts) := by
  have hstep : step d (.word cs) c = some ([.word (String.ofList cs), .mark c], .gap) := by
    rw [step, (mark_apart hc).1, next, finish, start_mark hc]
    rfl
  have has : run d .gap as = some ts := ha
  rw [lex_identifier_append h, run_cons hstep, has]
  rfl

section Numerals

theorem mem_cut (sep : Char) (h : c ∈ cs) :
    c ∈ (Text.cut sep cs).1 ∨ c = sep ∨ ∃ rest ∈ (Text.cut sep cs).2, c ∈ rest := by
  induction cs with
  | nil => cases h
  | cons b cs ih =>
    rw [Text.cut]
    rcases List.mem_cons.mp h with rfl | h
    · split
      · exact Or.inr (Or.inl ‹_›)
      · exact Or.inl List.mem_cons_self
    · split
      · exact Or.inr (Or.inr ⟨cs, rfl, h⟩)
      · exact (ih h).imp_left (List.mem_cons_of_mem b)

theorem mem_dropSign (h : c ∈ cs) : isSign c = true ∨ c ∈ dropSign cs := by
  cases cs with
  | nil => cases h
  | cons b cs =>
    rw [dropSign]
    rcases List.mem_cons.mp h with rfl | h
    · by_cases hb : isSign c = true
      · exact Or.inl hb
      · exact Or.inr (by simp [hb])
    · by_cases hb : isSign b = true
      · exact Or.inr (by rwa [if_pos hb])
      · exact Or.inr (by rw [if_neg hb]; exact List.mem_cons_of_mem b h)

theorem isDigit_of_mem (h : isDigits cs = true) (hc : c ∈ cs) : isDigit c = true := by
  rw [isDigits, Bool.and_eq_true, List.all_eq_true] at h
  exact h.2 c hc

theorem isWordStart_of_isDigit (h : isDigit c = true) : Name.isWordStart c = false := by
  by_contra hw
  rw [Bool.not_eq_false] at hw
  simp only [isDigit, Name.isWordStart, Name.isLetter, Bool.and_eq_true, Bool.or_eq_true,
    decide_eq_true_eq, beq_iff_eq, Char.le_def, UInt32.le_iff_toNat_le] at h hw
  rcases hw with (⟨ha, -⟩ | ⟨ha, -⟩) | rfl
  · exact absurd (Nat.le_trans ha h.2) (by decide)
  · exact absurd (Nat.le_trans ha h.2) (by decide)
  · exact absurd h.2 (by decide)

theorem isNumberChar_of_isDigit (h : isDigit c = true) : isNumberChar c = true := by
  rw [isDigit] at h
  simp [isNumberChar, Name.isWordChar, h]

/-- A numeral is read as a number as far as it goes. -/
theorem isNumberChar_of_mem (h : isNumeral cs = true) (hc : c ∈ cs) : isNumberChar c = true := by
  by_cases hE : c = 'E'
  · rw [hE]
    decide
  have hm : c ∈ cs.map fun c => if c = 'E' then 'e' else c :=
    List.mem_map.mpr ⟨c, hc, if_neg hE⟩
  simp only [isNumeral, Bool.and_eq_true, Option.all_eq_true] at h
  obtain ⟨⟨hwhole, hfraction⟩, hexponent⟩ := h
  have hsign (h : isSign c = true) : isNumberChar c = true := by simp [isNumberChar, h]
  rcases mem_cut 'e' hm with hm | rfl | ⟨e, he, hm⟩
  · rcases mem_dropSign hm with hs | hm
    · exact hsign hs
    rcases mem_cut '.' hm with hm | rfl | ⟨f, hf, hm⟩
    · exact isNumberChar_of_isDigit (isDigit_of_mem hwhole hm)
    · decide
    · exact isNumberChar_of_isDigit (isDigit_of_mem (hfraction f hf) hm)
  · decide
  · rcases mem_dropSign hm with hs | hm
    · exact hsign hs
    · exact isNumberChar_of_isDigit (isDigit_of_mem (hexponent e he) hm)

theorem head_of_isNumeral (h : isNumeral (c :: cs) = true) :
    isDigit c = true ∨ isSign c = true := by
  by_contra hc
  rw [not_or, Bool.not_eq_true, Bool.not_eq_true] at hc
  simp only [isNumeral, Bool.and_eq_true, List.map_cons] at h
  obtain ⟨⟨hwhole, -⟩, -⟩ := h
  by_cases he : c = 'E' ∨ c = 'e'
  · rcases he with rfl | rfl <;> simp [Text.cut, dropSign, isDigits] at hwhole
  · rw [not_or] at he
    rw [if_neg he.1, Text.cut, if_neg he.2, dropSign, if_neg (by simp [hc.2]), Text.cut] at hwhole
    split at hwhole
    · simp [isDigits] at hwhole
    · have := isDigit_of_mem hwhole List.mem_cons_self
      rw [hc.1] at this
      cases this

theorem run_number (h : isNumeral (read ++ cs) = true) :
    run d (.number read) cs = some [.number (String.ofList (read ++ cs))] := by
  induction cs generalizing read with
  | nil =>
    rw [List.append_nil] at h ⊢
    simp [run, finish, h]
  | cons c cs ih =>
    have hc := isNumberChar_of_mem h (c := c) (by simp)
    have hstep : step d (.number read) c = some ([], .number (read ++ [c])) := if_pos hc
    have ht : read ++ c :: cs = read ++ [c] ++ cs := by simp
    rw [ht] at h ⊢
    rw [run_cons hstep, ih h]
    rfl

theorem lex_numeral (hd : d.numbers = true) (h : isNumeral cs = true) :
    lex d cs = some [.number (String.ofList cs)] := by
  cases cs with
  | nil => cases h
  | cons c cs =>
    have hhead := head_of_isNumeral h
    have hc := isNumberChar_of_mem h List.mem_cons_self
    have hspace : isSpace c = false := eq_false_of_ne_true fun hs => by
      rw [(isSpace_apart hs).2.1] at hc
      cases hc
    have hmark : c ∉ d.marks := by
      intro hm
      rw [(mark_apart hm).2.1 hc] at hhead
      revert hhead
      decide
    have hword : Name.isWordStart c = false := by
      rcases hhead with hdigit | hsign
      · exact isWordStart_of_isDigit hdigit
      · simp only [isSign, Bool.or_eq_true, beq_iff_eq] at hsign
        rcases hsign with rfl | rfl <;> decide
    have hquote : c ≠ '\'' := by
      rintro rfl
      revert hhead
      decide
    have hs : start d c = some ([], .number [c]) := by
      rw [start_of_apart hspace hmark]
      simp [hword, hquote, hd, hhead]
    rw [lex, run_cons (step_gap hs), run_number (by simpa using h)]
    rfl

end Numerals

/-- What a dialect writes as one literal: any text if quotes are doubled, and else a plain one. -/
def Dialect.Writes (d : Dialect) (cs : List Char) : Prop :=
  d.doubles = false → ∀ c ∈ cs, isPlain c = true

theorem run_literal (h : d.Writes cs) :
    run d (.literal read) (Text.replace '\'' [d.guard, '\''] cs ++ ['\'']) =
      some [.literal (String.ofList (read ++ cs))] := by
  induction cs generalizing read with
  | nil => simp [Text.replace, run, step, finish]
  | cons c cs ih =>
    have hi := @ih (read ++ [c]) fun hd => (List.forall_mem_cons.mp (h hd)).2
    have hr : Text.replace '\'' [d.guard, '\''] (c :: cs) =
        (if c = '\'' then [d.guard, '\''] else [c]) ++ Text.replace '\'' [d.guard, '\''] cs := by
      rw [Text.replace, List.flatMap_cons]
      rfl
    rw [List.append_assoc, List.singleton_append] at hi
    rw [hr, ← hi]
    split
    · rename_i hq
      subst hq
      have hback : isPlain '\\' = false := by decide
      cases hd : d.doubles <;> simp [run, step, Dialect.guard, hd, hback, Function.comp_def]
    · rename_i hq
      have hc : (d.doubles || isPlain c) = true := by
        cases hd : d.doubles with
        | true => rfl
        | false => exact (List.forall_mem_cons.mp (h hd)).1
      simp [run, step, hq, hc]

/-- A text between quotes, with its own quotes guarded, is one literal. -/
theorem lex_quoted (h : d.Writes cs) :
    lex d ('\'' :: (Text.replace '\'' [d.guard, '\''] cs ++ ['\''])) =
      some [.literal (String.ofList cs)] := by
  rw [lex, run_cons (step_gap start_quote), run_literal h]
  rfl

end Scaffold.Code
