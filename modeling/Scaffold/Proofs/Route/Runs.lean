import Mathlib.Data.List.Sort
import Mathlib.Data.List.TakeWhile
import Scaffold.Proofs.Name.Spelling
import Scaffold.Route

/-! # Runs behind the colons of a path

A path is gone through once, with a note of whether a word is being read. What is found are the runs
of word characters that stand directly behind a colon, each as far as it goes, in the order of the
colons. A word holds no colon, so where one ends does not matter for those that come later.
-/

namespace Scaffold.Route

open Name (isWordChar)

variable {c : Char} {i : ℕ} {cs path w : List Char} {ws : List (List Char)}

/-- The word stands directly behind the colon at a place of the path, and no character that follows
could lengthen it. -/
def IsRunAt (path : List Char) (i : ℕ) (w : List Char) : Prop :=
  ∃ pre post, path = pre ++ ':' :: (w ++ post) ∧ pre.length = i ∧ w ≠ [] ∧
    (∀ c ∈ w, isWordChar c = true) ∧ ∀ c ∈ post.head?, isWordChar c = false

/-- The words are the runs behind the colons of the path, from left to right. -/
def Runs (path : List Char) (ws : List (List Char)) : Prop :=
  ∃ marks : List (ℕ × List Char), marks.map Prod.snd = ws ∧
    marks.Pairwise (fun m n => m.1 < n.1) ∧ ∀ i w, (i, w) ∈ marks ↔ IsRunAt path i w

theorem Runs.of_mem (h : Runs path ws) (hw : w ∈ ws) : ∃ i, IsRunAt path i w := by
  obtain ⟨marks, rfl, -, hmem⟩ := h
  obtain ⟨⟨i, v⟩, hm, rfl⟩ := List.mem_map.mp hw
  exact ⟨i, (hmem i v).mp hm⟩

/-- A path has one list of runs. -/
theorem Runs.unique {vs : List (List Char)} (h : Runs path vs) (h' : Runs path ws) : vs = ws := by
  obtain ⟨marks, rfl, hsorted, hmem⟩ := h
  obtain ⟨marks', rfl, hsorted', hmem'⟩ := h'
  have : Std.Asymm fun m n : ℕ × List Char => m.1 < n.1 := ⟨fun _ _ => Nat.lt_asymm⟩
  rw [hsorted.eq_of_mem_iff hsorted' fun ⟨i, w⟩ => (hmem i w).trans (hmem' i w).symm]

theorem not_isRunAt_nil : ¬ IsRunAt [] i w := by
  rintro ⟨pre, post, he, -⟩
  simp at he

theorem isRunAt_zero :
    IsRunAt (c :: cs) 0 w ↔ c = ':' ∧ cs.takeWhile isWordChar = w ∧ w ≠ [] := by
  constructor
  · rintro ⟨pre, post, he, hlen, hn, hw, hpost⟩
    obtain rfl := List.eq_nil_of_length_eq_zero hlen
    obtain ⟨rfl, rfl⟩ := List.cons.inj he
    have hstop : post.takeWhile isWordChar = [] := by
      cases post with
      | nil => rfl
      | cons d post => exact List.takeWhile_cons_of_neg (by simp [hpost d rfl])
    exact ⟨rfl, by rw [List.takeWhile_append_of_pos hw, hstop, List.append_nil], hn⟩
  · rintro ⟨rfl, rfl, hn⟩
    refine ⟨[], cs.dropWhile isWordChar, ?_, rfl, hn, fun c => List.mem_takeWhile_imp, ?_⟩
    · rw [List.takeWhile_append_dropWhile, List.nil_append]
    · intro d hd
      have hstop := List.head?_dropWhile_not isWordChar cs
      rw [Option.mem_def.mp hd] at hstop
      simpa using hstop

theorem isRunAt_succ : IsRunAt (c :: cs) (i + 1) w ↔ IsRunAt cs i w := by
  constructor
  · rintro ⟨_ | ⟨d, pre⟩, post, he, hlen, h⟩
    · cases hlen
    · obtain ⟨rfl, rfl⟩ := List.cons.inj he
      exact ⟨pre, post, rfl, Nat.succ.inj hlen, h⟩
  · rintro ⟨pre, post, rfl, rfl, h⟩
    exact ⟨c :: pre, post, rfl, rfl, h⟩

/-- The runs of a path are the one behind its first character, if there is one, and the later
ones. -/
theorem Runs.cons {here : Option (List Char)} (hhere : ∀ w, here = some w ↔ IsRunAt (c :: cs) 0 w)
    (h : Runs cs ws) : Runs (c :: cs) (here.toList ++ ws) := by
  obtain ⟨marks, rfl, hsorted, hmem⟩ := h
  let first := here.toList.map fun w => (0, w)
  let later := marks.map fun m => (m.1 + 1, m.2)
  have hlater : later.Pairwise fun m n => m.1 < n.1 := by
    refine List.pairwise_map.mpr (hsorted.imp ?_)
    intro m n hlt
    exact Nat.succ_lt_succ hlt
  have hfirst : first.Pairwise fun m n => m.1 < n.1 := by
    cases here with
    | none => exact .nil
    | some w => exact List.pairwise_singleton _ _
  refine ⟨first ++ later, by simp [first, later, Function.comp_def], ?_, ?_⟩
  · refine List.pairwise_append.mpr ⟨hfirst, hlater, fun m hm n hn => ?_⟩
    obtain ⟨w, -, rfl⟩ := List.mem_map.mp hm
    obtain ⟨k, -, rfl⟩ := List.mem_map.mp hn
    exact Nat.succ_pos k.1
  · intro i w
    cases i with
    | zero => simp [first, later, ← hhere]
    | succ i => simp [first, later, isRunAt_succ, ← hmem]

/-! ### The runs that are found -/

theorem paramNamesFrom_true (cs : List Char) :
    paramNamesFrom true cs = cs.takeWhile isWordChar :: paramNamesFrom false cs := by
  induction cs with
  | nil => rfl
  | cons c cs ih =>
    by_cases hc : isWordChar c = true
    · have hcolon : (c == ':') = false := by
        rw [beq_eq_false_iff_ne]
        rintro rfl
        exact absurd hc (by decide)
      simp [paramNamesFrom, hc, hcolon, ih]
    · simp [paramNamesFrom, hc]

def headRun? : List Char → Option (List Char)
  | [] => none
  | c :: cs => if c = ':' then some (cs.takeWhile isWordChar) |>.filter (· ≠ []) else none

theorem headRun?_eq_some : headRun? (c :: cs) = some w ↔ IsRunAt (c :: cs) 0 w := by
  rw [isRunAt_zero, headRun?]
  split <;> simp_all [Option.filter_eq_some_iff]

theorem paramNames_cons (c : Char) (cs : List Char) :
    paramNames (c :: cs) = (headRun? (c :: cs)).toList ++ paramNames cs := by
  have hstep : paramNamesFrom false (c :: cs) = paramNamesFrom (c == ':') cs := by
    simp [paramNamesFrom]
  unfold paramNames
  by_cases hc : c = ':'
  · rw [hstep, beq_iff_eq.mpr hc, paramNamesFrom_true, headRun?, if_pos hc]
    by_cases hn : cs.takeWhile isWordChar = [] <;> simp [hn, Option.filter]
  · rw [hstep, beq_eq_false_iff_ne.mpr hc, headRun?, if_neg hc]
    rfl

/-- The names of the parameters of a path are the runs behind its colons. -/
theorem runs_paramNames (path : List Char) : Runs path (paramNames path) := by
  induction path with
  | nil => exact ⟨[], rfl, .nil, fun i w => by simp [not_isRunAt_nil]⟩
  | cons c cs ih =>
    rw [paramNames_cons]
    exact ih.cons fun w => headRun?_eq_some

theorem paramNames_of_not_mem (h : ':' ∉ path) : paramNames path = [] := by
  induction path with
  | nil => rfl
  | cons c cs ih =>
    obtain ⟨hc, hcs⟩ := not_or.mp (mt List.mem_cons.mpr h)
    rw [paramNames_cons, headRun?, if_neg (Ne.symm hc), ih hcs]
    rfl

end Scaffold.Route
