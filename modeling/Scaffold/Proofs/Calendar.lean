import Mathlib.Algebra.Group.Nat.Defs
import Mathlib.Data.List.Basic
import Scaffold.Calendar
import Scaffold.Proofs.Fallible

/-! # Stamps sort by time

The parts of a moment are written one behind the other, each with all its digits. The stamps of two
moments then stand in the order of the moments, whatever follows them. A year before 1000 has fewer
digits and is left out.
-/

namespace Scaffold

variable {w a b : ℕ} {ws as bs : List ℕ}

/-! ### Numbers of a fixed width -/

def lastDigits : ℕ → ℕ → List Char
  | 0, _ => []
  | w + 1, n => lastDigits w (n / 10) ++ [Nat.digitChar (n % 10)]

theorem replicate_append_toDigits {n : ℕ} (h : n < 10 ^ (w + 1)) :
    List.replicate (w + 1 - (Nat.toDigits 10 n).length) '0' ++ Nat.toDigits 10 n =
      lastDigits (w + 1) n := by
  induction w generalizing n with
  | zero =>
    have hn : n < 10 := by simpa using h
    rw [Nat.toDigits_of_lt_base hn, lastDigits, Nat.mod_eq_of_lt hn]
    rfl
  | succ w ih =>
    rw [lastDigits]
    by_cases hn : n < 10
    · have hzero : n / 10 = 0 := Nat.div_eq_of_lt hn
      rw [hzero, ← ih (Nat.pow_pos (by decide)), Nat.toDigits_of_lt_base hn, Nat.mod_eq_of_lt hn,
        Nat.toDigits_of_lt_base (by decide), List.length_singleton, List.length_singleton,
        Nat.add_sub_cancel, Nat.add_sub_cancel, List.replicate_succ']
      rfl
    · have hdiv : n / 10 < 10 ^ (w + 1) := Nat.div_lt_of_lt_mul (by rwa [← Nat.pow_succ'])
      rw [← ih hdiv, Nat.toDigits_of_base_le (by decide) (Nat.not_lt.mp hn), List.length_append,
        List.length_singleton, Nat.add_sub_add_right, List.append_assoc]

theorem toList_padded {n : ℕ} (h : n < 10 ^ (w + 1)) :
    (padded (w + 1) n).toList = lastDigits (w + 1) n := by
  rw [padded, String.toList_ofList, replicate_append_toDigits h]

theorem toDigits_eq_lastDigits {n : ℕ} (hl : 10 ^ w ≤ n) (h : n < 10 ^ (w + 1)) :
    Nat.toDigits 10 n = lastDigits (w + 1) n := by
  have hlong : w + 1 ≤ (Nat.toDigits 10 n).length := by
    by_contra hshort
    cases w with
    | zero =>
      have hn : n < 10 := by simpa using h
      rw [Nat.toDigits_of_lt_base hn] at hshort
      exact hshort (Nat.le_refl 1)
    | succ w =>
      have hle := (Nat.length_toDigits_le_iff (by decide) w.succ_pos).mp
        (Nat.lt_succ_iff.mp (Nat.not_le.mp hshort))
      omega
  rw [← replicate_append_toDigits h, Nat.sub_eq_zero_of_le hlong]
  rfl

theorem isDigit_of_mem_padded {c : Char} {n : ℕ} (h : c ∈ (padded w n).toList) :
    c.isDigit = true := by
  rw [padded, String.toList_ofList] at h
  rcases List.mem_append.mp h with h | h
  · rw [List.eq_of_mem_replicate h]
    decide
  · exact Nat.isDigit_of_mem_toDigits (by decide) (by decide) h

theorem Date.isDigit_of_mem_stamp {c : Char} {d : Date} (h : c ∈ d.stamp.toList) :
    c.isDigit = true := by
  have hparts : d.stamp =
      String.ofList (Nat.toDigits 10 d.year) ++ padded 2 d.month ++ padded 2 d.day := rfl
  simp only [hparts, String.toList_append, String.toList_ofList, List.mem_append] at h
  obtain (h | h) | h := h
  · exact Nat.isDigit_of_mem_toDigits (by decide) (by decide) h
  · exact isDigit_of_mem_padded h
  · exact isDigit_of_mem_padded h

theorem digitChar_lt (h : a < b) (hb : b < 10) : Nat.digitChar a < Nat.digitChar b := by
  have hall : ∀ i j : Fin 10, i < j → Nat.digitChar i < Nat.digitChar j := by decide
  exact hall ⟨a, by omega⟩ ⟨b, hb⟩ h

theorem lastDigits_append_lt {x y : List Char} (h : a < b) (hb : b < 10 ^ w) :
    lastDigits w a ++ x < lastDigits w b ++ y := by
  induction w generalizing a b x y with
  | zero => omega
  | succ w ih =>
    have hdiv : b / 10 < 10 ^ w := Nat.div_lt_of_lt_mul (by rwa [← Nat.pow_succ'])
    rw [lastDigits, lastDigits, List.append_assoc, List.append_assoc]
    have hle : a / 10 ≤ b / 10 := Nat.div_le_div_right (Nat.le_of_lt h)
    rcases Nat.lt_or_eq_of_le hle with hlt | heq
    · exact ih hlt hdiv
    · rw [heq]
      apply List.append_left_lt
      apply List.cons_lt_cons_iff.mpr
      exact Or.inl (digitChar_lt (by omega) (Nat.mod_lt b (by decide)))

def written (ws ns : List ℕ) : List Char := (List.zipWith lastDigits ws ns).flatten

/-- The first number that differs decides. -/
theorem written_append_lt {x y : List Char} (hb : List.Forall₂ (fun w b => b < 10 ^ w) ws bs)
    (hl : as.length = bs.length) (h : as < bs) : written ws as ++ x < written ws bs ++ y := by
  induction hb generalizing as with
  | nil => cases h
  | @cons w b ws bs hw _ ih =>
    cases as with
    | nil => cases hl
    | cons a as =>
      change (lastDigits w a ++ written ws as) ++ x < (lastDigits w b ++ written ws bs) ++ y
      rw [List.append_assoc, List.append_assoc]
      rcases List.cons_lt_cons_iff.mp h with hlt | ⟨rfl, hlt⟩
      · exact lastDigits_append_lt hlt hw
      · exact List.append_left_lt (ih (Nat.succ.inj hl) hlt)

/-! ### Moments -/

namespace Moment

def Shown (t : Moment) : Prop :=
  ∃ year month day hour minute second microsecond offset,
    ofParts year month day hour minute second microsecond offset = .ok t

def clock (t : Moment) : List ℕ :=
  [t.date.year, t.date.month, t.date.day, t.hour, t.minute, t.second]

def widths : List ℕ := [4, 2, 2, 2, 2, 2]

variable {t u : Moment}

theorem daysIn_lt (year month : ℕ) : daysIn year month < 100 := by
  unfold daysIn
  split
  · split <;> decide
  all_goals decide

theorem isDigit_of_mem_stamp {c : Char} (h : c ∈ t.stamp.toList) : c.isDigit = true := by
  have hparts : t.stamp =
      t.date.stamp ++ padded 2 t.hour ++ padded 2 t.minute ++ padded 2 t.second := rfl
  simp only [hparts, String.toList_append, List.mem_append] at h
  obtain ((h | h) | h) | h := h
  · exact Date.isDigit_of_mem_stamp h
  · exact isDigit_of_mem_padded h
  · exact isDigit_of_mem_padded h
  · exact isDigit_of_mem_padded h

theorem Shown.fits (h : t.Shown) : List.Forall₂ (fun w n => n < 10 ^ w) widths t.clock := by
  obtain ⟨year, month, day, hour, minute, second, microsecond, offset, h⟩ := h
  obtain ⟨date, hdate, h⟩ := bind_eq_ok.mp h
  have hday := daysIn_lt year.toNat month.toNat
  unfold Date.ofParts at hdate
  split_ifs at hdate with hyear hmonth hrange
  split_ifs at h with hhour hminute hsecond
  cases hdate
  cases h
  simp only [widths, clock, List.forall₂_cons, List.Forall₂.nil, and_true]
  omega

theorem toList_stamp (h : t.Shown) (hy : 1000 ≤ t.date.year) :
    t.stamp.toList = written widths t.clock := by
  have hfits := h.fits
  simp only [widths, clock, List.forall₂_cons] at hfits
  obtain ⟨hyear, hmonth, hday, hhour, hminute, hsecond, -⟩ := hfits
  have hparts : t.stamp = String.ofList (Nat.toDigits 10 t.date.year) ++ padded 2 t.date.month ++
      padded 2 t.date.day ++ padded 2 t.hour ++ padded 2 t.minute ++ padded 2 t.second := rfl
  simp only [hparts, String.toList_append, String.toList_ofList, toDigits_eq_lastDigits hy hyear,
    toList_padded hmonth, toList_padded hday, toList_padded hhour, toList_padded hminute,
    toList_padded hsecond]
  simp [written, widths, clock]

/-- The stamps of two moments are in the order of their times of the clock. -/
theorem stamp_append_lt {x y : String} (ht : t.Shown) (hu : u.Shown) (hy : 1000 ≤ t.date.year)
    (h : t.clock < u.clock) : t.stamp ++ x < u.stamp ++ y := by
  have hyear : 1000 ≤ u.date.year := by
    rcases List.cons_lt_cons_iff.mp h with hlt | ⟨heq, -⟩
    · omega
    · omega
  rw [String.lt_iff, String.toList_append, String.toList_append, toList_stamp ht hy,
    toList_stamp hu hyear]
  exact written_append_lt hu.fits rfl h

end Moment

end Scaffold
