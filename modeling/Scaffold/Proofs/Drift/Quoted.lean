import Scaffold.Column.Literal
import Scaffold.Proofs.Sql.Statement
import Scaffold.Proofs.Text.Split
import Scaffold.Text.Digit

/-! # Strings between quotes in Dart

A reader for what stands between single quotes. A backslash makes a code point of the characters
behind it, and a dollar sign starts something that is evaluated, so that there is no fixed string.
Only the quote is escaped when the default of a column is written. The default is read back if it
has nothing else in it that the reader knows.
-/

namespace Scaffold.Drift.Quoted

open Code

def codeUnits (n : Nat) : List Nat :=
  if n < 0x10000 then [n]
  else [0xD800 + (n - 0x10000) / 0x400, 0xDC00 + (n - 0x10000) % 0x400]

def units (cs : List Char) : List Nat := cs.flatMap fun c => codeUnits c.toNat

/-- Where the reader is: in the text, right after a backslash, after the letter for a code, within a
code of which some digits are left, or within one between braces. -/
inductive State
  | body
  | escape
  | unicode
  | digits (left code : Nat)
  | braced (count code : Nat)
  deriving DecidableEq, Repr

def controls : List (Char × Nat) :=
  [('n', 0xA), ('r', 0xD), ('f', 0xC), ('b', 0x8), ('t', 0x9), ('v', 0xB)]

def stepDigit (left code : Nat) (c : Char) : Option (List Nat × State) :=
  (Text.hexValue? c).map fun v =>
    if left ≤ 1 then ([16 * code + v], .body) else ([], .digits (left - 1) (16 * code + v))

/-- The code units that are complete with the next character, if the string goes on with it. -/
def step (s : State) (c : Char) : Option (List Nat × State) :=
  match s with
  | .body =>
    if c = '\\' then some ([], .escape)
    else if isPlain c then some (codeUnits c.toNat, .body)
    else none
  | .escape =>
    if c = '\n' ∨ c = '\r' then none
    else if c = 'x' then some ([], .digits 2 0)
    else if c = 'u' then some ([], .unicode)
    else some (((controls.lookup c).map fun n => [n]).getD (codeUnits c.toNat), .body)
  | .unicode => if c = '\x7b' then some ([], .braced 0 0) else stepDigit 4 0 c
  | .digits left code => stepDigit left code c
  | .braced count code =>
    if c = '\x7d' then
      if 0 < count ∧ code < 0x110000 then some (codeUnits code, .body) else none
    else if count < 6 then (Text.hexValue? c).map fun v => ([], .braced (count + 1) (16 * code + v))
    else none

/-- Reads up to the closing quote: the code units of the string, and what is behind the quote. -/
def read : State → List Char → Option (List Nat × List Char)
  | _, [] => none
  | s, c :: cs =>
    if s = .body ∧ c = '\'' then some ([], cs)
    else (step s c).bind fun (us, s') => (read s' cs).map fun (vs, rest) => (us ++ vs, rest)

/-- The string in a constant, which must be all that there is. -/
def constant? (cs : List Char) : Option (List Nat) :=
  (Text.after? "const Constant('".toList cs).bind fun body =>
    (read .body body).bind fun (us, rest) => if rest = [')'] then some us else none

variable {c : Char} {cs rest : List Char} {us vs : List Nat} {s s' : State}

theorem read_cons (hs : ¬ (s = .body ∧ c = '\'')) : read s (c :: cs) = some (us, rest) ↔
    ∃ ws s' vs, step s c = some (ws, s') ∧ read s' cs = some (vs, rest) ∧ us = ws ++ vs := by
  rw [read, if_neg hs]
  constructor
  · intro h
    obtain ⟨⟨ws, s'⟩, hstep, h⟩ := Option.bind_eq_some_iff.mp h
    obtain ⟨⟨vs, rest'⟩, hread, h⟩ := Option.map_eq_some_iff.mp h
    cases h
    exact ⟨ws, s', vs, hstep, hread, rfl⟩
  · rintro ⟨ws, s', vs, hstep, hread, rfl⟩
    simp [hstep, hread]

theorem read_close : read .body ('\'' :: cs) = some ([], cs) := by
  rw [read, if_pos ⟨rfl, rfl⟩]

theorem length_lt_of_read (h : read s cs = some (us, rest)) : rest.length < cs.length := by
  induction cs generalizing s us with
  | nil => cases h
  | cons c cs ih =>
    by_cases hs : s = .body ∧ c = '\''
    · obtain ⟨rfl, rfl⟩ := hs
      cases read_close.symm.trans h
      exact Nat.lt_succ_self _
    · obtain ⟨ws, s', vs, -, hread, -⟩ := (read_cons hs).mp h
      exact Nat.lt_succ_of_lt (ih hread)

def quoted (cs : List Char) : List Char := Text.replace '\'' ['\\', '\''] cs

theorem quoted_quote : quoted ('\'' :: cs) = '\\' :: '\'' :: quoted cs := rfl

theorem quoted_cons (hc : c ≠ '\'') : quoted (c :: cs) = c :: quoted cs := by
  simp [quoted, Text.replace, hc]

theorem units_cons : units (c :: cs) = codeUnits c.toNat ++ units cs := rfl

/-- The code units that the reader may give in excess of the characters that it reads: the brace
at the end of a code completes two of them. -/
def State.excess : State → Nat
  | .braced _ _ => 1
  | _ => 0

theorem length_codeUnits (n : Nat) :
    1 ≤ (codeUnits n).length ∧ (codeUnits n).length ≤ 2 := by
  rw [codeUnits]
  split <;> simp

theorem stepDigit_length {left code : Nat} (h : stepDigit left code c = some (us, s')) :
    us.length + s'.excess ≤ 1 := by
  obtain ⟨v, -, h⟩ := Option.map_eq_some_iff.mp h
  split at h <;> cases h <;> simp [State.excess]

/-- No character completes more code units than it has itself, but for the excess. -/
theorem step_length (h : step s c = some (us, s')) :
    us.length + s'.excess ≤ (codeUnits c.toNat).length + s.excess := by
  obtain ⟨hc, -⟩ := length_codeUnits c.toNat
  cases s with
  | body =>
    rw [step] at h
    split at h
    · cases h
      exact Nat.zero_le _
    split at h
    · cases h
      exact Nat.le_refl _
    · cases h
  | escape =>
    rw [step] at h
    split at h
    · cases h
    split at h
    · cases h
      exact Nat.zero_le _
    split at h
    · cases h
      exact Nat.zero_le _
    · cases h
      cases controls.lookup c with
      | none => exact Nat.le_refl _
      | some n => exact hc
  | unicode =>
    rw [step] at h
    split at h
    · cases h
      exact hc
    · exact Nat.le_trans (stepDigit_length h) hc
  | digits left code => exact Nat.le_trans (stepDigit_length h) hc
  | braced count code =>
    rw [step] at h
    split at h
    · split at h
      · cases h
        obtain ⟨-, hcode⟩ := length_codeUnits code
        exact Nat.le_trans hcode (Nat.add_le_add_right hc 1)
      · cases h
    split at h
    · obtain ⟨v, -, h⟩ := Option.map_eq_some_iff.mp h
      cases h
      exact Nat.le_add_left _ _
    · cases h

theorem step_escape_quote : step .escape '\'' = some ([0x27], .body) := by decide

theorem step_escape_backslash : step .escape '\\' = some ([0x5C], .body) := by decide

/-- A quoted text that is read up to its own closing quote has no fewer code units than are read. -/
theorem length_read_quoted (h : read s (quoted cs ++ '\'' :: rest) = some (us, rest)) :
    us.length ≤ (units cs).length + s.excess := by
  induction cs generalizing s us with
  | nil =>
    by_cases hs : s = .body
    · subst hs
      cases read_close.symm.trans h
      exact Nat.zero_le _
    · -- an escaped quote leaves none to close the string
      obtain ⟨ws, s', vs, -, hread, -⟩ := (read_cons fun hb => hs hb.1).mp h
      exact absurd (length_lt_of_read hread) (Nat.lt_irrefl _)
  | cons c cs ih =>
    by_cases hc : c = '\''
    · subst hc
      rw [quoted_quote, List.cons_append, List.cons_append] at h
      obtain ⟨ws, s', vs, hstep, hread, rfl⟩ := (read_cons (by rintro ⟨-, ⟨⟩⟩)).mp h
      cases s with
      | body =>
        cases hstep
        obtain ⟨ws, s', vs, hstep, hread, rfl⟩ := (read_cons (by rintro ⟨⟨⟩, -⟩)).mp hread
        cases step_escape_quote.symm.trans hstep
        have hv := ih hread
        have hunits : (units ('\'' :: cs)).length = (units cs).length + 1 := rfl
        simp only [List.length_append, List.length_cons, List.length_nil, hunits]
        omega
      | escape =>
        -- the second quote closes the string too early
        cases step_escape_backslash.symm.trans hstep
        have hrest := congrArg Prod.snd (Option.some.inj (read_close.symm.trans hread))
        have hlength := congrArg List.length hrest
        simp only [List.length_append, List.length_cons] at hlength
        omega
      | unicode => cases hstep
      | digits => cases hstep
      | braced =>
        have hnone : Text.hexValue? '\\' = none := by decide
        simp [step, hnone] at hstep
    · rw [quoted_cons hc, List.cons_append] at h
      obtain ⟨ws, s', vs, hstep, hread, rfl⟩ := (read_cons fun hb => hc hb.2).mp h
      have hs := step_length hstep
      have hv := ih hread
      rw [units_cons, List.length_append, List.length_append]
      omega

theorem read_plain (hc : isPlain c = true) (cs : List Char) :
    read .body (quoted (c :: cs) ++ '\'' :: rest) =
      (read .body (quoted cs ++ '\'' :: rest)).map fun r => (codeUnits c.toNat ++ r.1, r.2) := by
  have hback : c ≠ '\\' := by
    rintro rfl
    cases hc
  by_cases hq : c = '\''
  · subst hq
    rw [quoted_quote, List.cons_append, List.cons_append, read, if_neg (by decide)]
    change (read .escape _).map _ = _
    rw [read, if_neg (by decide), step_escape_quote, Option.bind_some, Option.map_map]
    rfl
  · rw [quoted_cons hq, List.cons_append, read, if_neg fun h => hq h.2]
    simp [step, hback, hc]

/-- A quoted text is read back if and only if it is plain. -/
theorem read_quoted_iff (cs : List Char) :
    read .body (quoted cs ++ '\'' :: rest) = some (units cs, rest) ↔
      ∀ c ∈ cs, isPlain c = true := by
  induction cs with
  | nil => exact iff_of_true read_close fun _ h => nomatch h
  | cons c cs ih =>
    rw [List.forall_mem_cons, ← ih]
    by_cases hc : isPlain c = true
    · rw [read_plain hc, units_cons, and_iff_right hc]
      constructor
      · intro h
        obtain ⟨⟨us, rest'⟩, hread, h⟩ := Option.map_eq_some_iff.mp h
        obtain ⟨hus, hrest⟩ := Prod.mk.inj h
        rw [hread, ← List.append_cancel_left hus, ← hrest]
      · intro h
        rw [h]
        rfl
    · refine iff_of_false (fun h => ?_) fun h => hc h.1
      have hq : c ≠ '\'' := by
        rintro rfl
        exact hc (by decide)
      rw [quoted_cons hq, List.cons_append] at h
      obtain ⟨ws, s', vs, hstep, hread, hus⟩ := (read_cons fun hb => hq hb.2).mp h
      by_cases hback : c = '\\'
      · subst hback
        cases hstep
        have hlength := length_read_quoted hread
        have hunits : (units ('\\' :: cs)).length = (units cs).length + 1 := rfl
        rw [hus, List.nil_append] at hunits
        simp only [State.excess] at hlength
        omega
      · simp [step, hback, hc] at hstep

theorem toList_enclosed (before : String) (cs : List Char) (after : String) :
    (before ++ String.ofList cs ++ after).toList = before.toList ++ (cs ++ after.toList) := by
  rw [String.toList_append, String.toList_append, String.toList_ofList, List.append_assoc]

theorem toList_dart (text : String) : (Column.Literal.string text).dart.toList =
    "const Constant('".toList ++ (quoted text.toList ++ ['\'', ')']) :=
  toList_enclosed "const Constant('" _ "')"

theorem toList_sql (text : String) : (Column.Literal.string text).sql.toList =
    '\'' :: (Text.replace '\'' ['\'', '\''] text.toList ++ ['\'']) :=
  toList_enclosed "'" _ "'"

theorem constant?_string (text : String) (us : List Nat) :
    constant? (Column.Literal.string text).dart.toList = some us ↔
      read .body (quoted text.toList ++ ['\'', ')']) = some (us, [')']) := by
  rw [constant?, toList_dart, Text.after?_append, Option.bind_some]
  cases read .body (quoted text.toList ++ ['\'', ')']) with
  | none => simp
  | some r => simp [Prod.ext_iff, and_comm]

/-- The default of a column that is written as a string is the same string in SQL always, and in
Dart if and only if it has neither a backslash, nor a dollar sign, nor the end of a line. -/
theorem default_denotes_iff {value : String} {k : Column.Kind}
    (hn : value ∉ Column.Literal.nowTokens) (hb : k ≠ .boolean) (hk : k.isNumeric = false) :
    Sql.lex (Column.Literal.ofDefault value k).sql.toList = some [.literal value] ∧
      (constant? (Column.Literal.ofDefault value k).dart.toList = some (units value.toList) ↔
        ∀ c ∈ value.toList, isPlain c = true) := by
  have hl : Column.Literal.ofDefault value k = .string value := by
    simp [Column.Literal.ofDefault, hn, hb, hk]
  rw [hl]
  constructor
  · have hlex := lex_quoted (Sql.writes_dialect false value.toList)
    rw [String.ofList_toList] at hlex
    rw [toList_sql]
    exact hlex
  · rw [constant?_string, ← read_quoted_iff]

theorem default_denotes_iff_reilly :
    ("O'Reilly" ∉ Column.Literal.nowTokens ∧ Column.Kind.text ≠ .boolean ∧
      Column.Kind.text.isNumeric = false) ∧
      Sql.lex (Column.Literal.ofDefault "O'Reilly" .text).sql.toList =
        some [.literal "O'Reilly"] ∧
      constant? (Column.Literal.ofDefault "O'Reilly" .text).dart.toList =
        some (units "O'Reilly".toList) := by
  have hn : "O'Reilly" ∉ Column.Literal.nowTokens := by decide
  have hb : Column.Kind.text ≠ .boolean := by decide
  obtain ⟨hsql, hdart⟩ := default_denotes_iff hn hb rfl
  exact ⟨⟨hn, hb, rfl⟩, hsql, hdart.mpr (List.all_eq_true.mp (by decide))⟩

/-- The backslash of a path is not escaped, so Dart reads it and the letter behind it as the end of
a line. -/
theorem default_misread :
    "C:\\new" ∉ Column.Literal.nowTokens ∧ '\n' ∉ "C:\\new".toList ∧
      constant? (Column.Literal.ofDefault "C:\\new" .text).dart.toList =
        some (units "C:\new".toList) ∧
      units "C:\new".toList ≠ units "C:\\new".toList := by
  decide +kernel

end Scaffold.Drift.Quoted
