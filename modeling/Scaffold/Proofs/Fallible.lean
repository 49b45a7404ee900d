import Mathlib.Data.List.Basic
import Mathlib.Data.List.Forall2

/-! # Fallible steps

How a sequence of steps that may fail ends: with all results, or with the failure of the first step
that fails.
-/

namespace Scaffold

variable {ε α β : Type} {x : Except ε α} {e : ε} {b : β}

theorem bind_eq_ok {f : α → Except ε β} :
    x >>= f = .ok b ↔ ∃ a, x = .ok a ∧ f a = .ok b := by
  cases x <;> simp [bind, Except.bind]

theorem bind_eq_error {f : α → Except ε β} :
    x >>= f = .error e ↔ x = .error e ∨ ∃ a, x = .ok a ∧ f a = .error e := by
  cases x <;> simp [bind, Except.bind]

theorem check_bind_eq_ok {x : Except ε Unit} {y : Except ε β} :
    (x >>= fun _ => y) = .ok b ↔ x = .ok () ∧ y = .ok b := by
  cases x <;> simp [bind, Except.bind]

theorem check_bind_eq_error {x : Except ε Unit} {y : Except ε β} :
    (x >>= fun _ => y) = .error e ↔ x = .error e ∨ x = .ok () ∧ y = .error e := by
  cases x <;> simp [bind, Except.bind]

theorem exists_eq_ok_unit {x : Except ε Unit} : (∃ u, x = .ok u) ↔ x = .ok () :=
  ⟨fun ⟨_, h⟩ => h, fun h => ⟨(), h⟩⟩

theorem map_eq_ok {f : α → β} : f <$> x = .ok b ↔ ∃ a, x = .ok a ∧ f a = b := by
  cases x <;> simp [Functor.map, Except.map]

theorem map_eq_error {f : α → β} : f <$> x = .error e ↔ x = .error e := by
  cases x <;> simp [Functor.map, Except.map]

theorem toOption_eq_some {a : α} : x.toOption = some a ↔ x = .ok a := by
  cases x <;> simp [Except.toOption]

theorem mapError_eq_ok {ε' : Type} {f : ε → ε'} {a : α} :
    x.mapError f = .ok a ↔ x = .ok a := by
  cases x <;> simp [Except.mapError]

theorem mapError_eq_error {ε' : Type} {f : ε → ε'} {e : ε'} :
    x.mapError f = .error e ↔ ∃ e', x = .error e' ∧ f e' = e := by
  cases x <;> simp [Except.mapError]

variable {f : α → Except ε β} {xs : List α} {ys : List β}

theorem mapM_eq_ok : xs.mapM f = .ok ys ↔ List.Forall₂ (fun x y => f x = .ok y) xs ys := by
  induction xs generalizing ys with
  | nil => cases ys <;> simp [pure, Except.pure]
  | cons x xs ih =>
    rw [List.mapM_cons, bind_eq_ok]
    constructor
    · rintro ⟨y, hy, h⟩
      obtain ⟨zs, hz, he⟩ := bind_eq_ok.mp h
      cases he
      exact .cons hy (ih.mp hz)
    · rintro (_ | ⟨hy, hs⟩)
      exact ⟨_, hy, bind_eq_ok.mpr ⟨_, ih.mpr hs, rfl⟩⟩

/-- What a step says of an element and its result holds of all elements and results. -/
theorem forall₂_of_mapM {R : α → β → Prop} (h : xs.mapM f = .ok ys)
    (hf : ∀ x ∈ xs, ∀ y, f x = .ok y → R x y) : List.Forall₂ R xs ys := by
  have hsteps := mapM_eq_ok.mp h
  rw [List.forall₂_iff_zip] at hsteps ⊢
  exact ⟨hsteps.1, fun hm => hf _ (List.of_mem_zip hm).1 _ (hsteps.2 hm)⟩

theorem exists_forall₂_iff {R : α → β → Prop} :
    (∃ ys, List.Forall₂ R xs ys) ↔ ∀ x ∈ xs, ∃ y, R x y := by
  induction xs with
  | nil => simp
  | cons x xs ih =>
    rw [List.forall_mem_cons, ← ih]
    constructor
    · rintro ⟨_, _ | ⟨hy, hs⟩⟩
      exact ⟨⟨_, hy⟩, _, hs⟩
    · rintro ⟨⟨y, hy⟩, ys, hs⟩
      exact ⟨y :: ys, .cons hy hs⟩

theorem exists_of_mem_forall₂ {R : α → β → Prop} {y : β} (h : List.Forall₂ R xs ys)
    (hy : y ∈ ys) : ∃ x ∈ xs, R x y := by
  induction h with
  | nil => cases hy
  | @cons x z xs ys hr _ ih =>
    rcases List.mem_cons.mp hy with rfl | hy
    · exact ⟨x, List.mem_cons_self, hr⟩
    · obtain ⟨w, hw, h⟩ := ih hy
      exact ⟨w, List.mem_cons_of_mem x hw, h⟩

theorem exists_of_mem_filterMap {f : α → Except ε (Option β)} {os : List (Option β)} {y : β}
    (h : xs.mapM f = .ok os) (hy : y ∈ os.filterMap id) : ∃ x ∈ xs, f x = .ok (some y) := by
  obtain ⟨o, ho, rfl⟩ := List.mem_filterMap.mp hy
  obtain ⟨x, hx, hf⟩ := exists_of_mem_forall₂ (mapM_eq_ok.mp h) ho
  exact ⟨x, hx, hf⟩

theorem mapM_relates {γ δ : Type} {R : α → β → Prop} {S : γ → δ → Prop}
    {f : α → Except ε γ} {g : β → Except ε δ} (h : List.Forall₂ R xs ys)
    (hf : ∀ x y, R x y → ∃ a b, f x = .ok a ∧ g y = .ok b ∧ S a b) :
    ∃ as bs, xs.mapM f = .ok as ∧ ys.mapM g = .ok bs ∧ List.Forall₂ S as bs := by
  induction h with
  | nil => exact ⟨[], [], rfl, rfl, .nil⟩
  | @cons x y xs ys hxy _ ih =>
    obtain ⟨a, b, ha, hb, hab⟩ := hf x y hxy
    obtain ⟨as, bs, has, hbs, hs⟩ := ih
    exact ⟨a :: as, b :: bs, mapM_eq_ok.mpr (.cons ha (mapM_eq_ok.mp has)),
      mapM_eq_ok.mpr (.cons hb (mapM_eq_ok.mp hbs)), .cons hab hs⟩

/-- Whether a step fails at the first element of a list at which it can. -/
def FailsFirst (f : α → Except ε β) (xs : List α) (e : ε) : Prop :=
  ∃ pre x post, xs = pre ++ x :: post ∧ (∀ y ∈ pre, ∃ b, f y = .ok b) ∧ f x = .error e

theorem failsFirst_cons {x : α} :
    FailsFirst f (x :: xs) e ↔ f x = .error e ∨ (∃ b, f x = .ok b) ∧ FailsFirst f xs e := by
  constructor
  · rintro ⟨pre, z, post, hx, hp, he⟩
    cases pre with
    | nil =>
      cases hx
      exact Or.inl he
    | cons y pre =>
      cases hx
      exact Or.inr ⟨hp x List.mem_cons_self,
        pre, z, post, rfl, fun w hw => hp w (List.mem_cons_of_mem x hw), he⟩
  · rintro (he | ⟨hx, pre, z, post, rfl, hp, he⟩)
    · exact ⟨[], x, xs, rfl, by simp, he⟩
    · exact ⟨x :: pre, z, post, rfl, List.forall_mem_cons.mpr ⟨hx, hp⟩, he⟩

theorem failsFirst_map {γ : Type} {g : γ → α} {zs : List γ} :
    FailsFirst f (zs.map g) e ↔ FailsFirst (f ∘ g) zs e := by
  induction zs with
  | nil => simp [FailsFirst]
  | cons z zs ih => simp [failsFirst_cons, ih]

theorem mapM_eq_error : xs.mapM f = .error e ↔ FailsFirst f xs e := by
  induction xs with
  | nil => simp [FailsFirst, pure, Except.pure]
  | cons x xs ih =>
    rw [List.mapM_cons, bind_eq_error, failsFirst_cons]
    refine or_congr_right ?_
    simp only [bind_eq_error, ih]
    constructor
    · rintro ⟨b, hb, h | ⟨ys, -, h⟩⟩
      · exact ⟨⟨b, hb⟩, h⟩
      · cases h
    · rintro ⟨⟨b, hb⟩, h⟩
      exact ⟨b, hb, Or.inl h⟩

/-- Folding with readings that may fail is reading all and then folding. -/
theorem foldlM_map_eq {γ : Type} (g : γ → β → γ) (c : γ) :
    xs.foldlM (fun c x => g c <$> f x) c = (List.foldl g c) <$> xs.mapM f := by
  induction xs generalizing c with
  | nil => rfl
  | cons x xs ih =>
    rw [List.foldlM_cons, List.mapM_cons]
    cases f x with
    | error e => rfl
    | ok b =>
      change xs.foldlM (fun c x => g c <$> f x) (g c b) = _
      rw [ih]
      cases xs.mapM f <;> rfl

theorem mapM_map_eq {γ : Type} (g : β → γ) (xs : List α) :
    xs.mapM (fun x => g <$> f x) = List.map g <$> xs.mapM f := by
  induction xs with
  | nil => rfl
  | cons x xs ih =>
    rw [List.mapM_cons, List.mapM_cons, ih]
    cases f x with
    | error e => rfl
    | ok b => cases xs.mapM f <;> rfl

section FailsOnly

variable {P : ε → Prop}

/-- Every failure of a step is of one kind. -/
def FailsOnly (P : ε → Prop) (x : Except ε α) : Prop := ∀ e, x = .error e → P e

theorem failsOnly_ok (a : α) : FailsOnly P (.ok a : Except ε α) := by
  rintro e ⟨⟩

theorem failsOnly_error (h : P e) : FailsOnly P (.error e : Except ε α) := by
  rintro e' ⟨⟩
  exact h

theorem FailsOnly.bind {f : α → Except ε β} (hx : FailsOnly P x)
    (hf : ∀ a, x = .ok a → FailsOnly P (f a)) : FailsOnly P (x >>= f) := by
  intro e h
  rcases bind_eq_error.mp h with h | ⟨a, ha, h⟩
  · exact hx e h
  · exact hf a ha e h

theorem FailsOnly.map {f : α → β} (hx : FailsOnly P x) : FailsOnly P (f <$> x) :=
  fun e h => hx e (map_eq_error.mp h)

theorem FailsOnly.ite {c : Prop} [Decidable c] {x y : Except ε α} (hx : FailsOnly P x)
    (hy : FailsOnly P y) : FailsOnly P (if c then x else y) := by
  split
  · exact hx
  · exact hy

theorem FailsOnly.mapM (hf : ∀ x ∈ xs, FailsOnly P (f x)) : FailsOnly P (xs.mapM f) := by
  intro e h
  obtain ⟨pre, x, post, rfl, -, he⟩ := mapM_eq_error.mp h
  exact hf x (by simp) e he

theorem FailsOnly.foldlM {γ : Type} {f : γ → α → Except ε γ} (hf : ∀ c x, FailsOnly P (f c x))
    (c : γ) (xs : List α) : FailsOnly P (xs.foldlM f c) := by
  induction xs generalizing c with
  | nil => exact failsOnly_ok c
  | cons x xs ih => exact (hf c x).bind fun c _ => ih c

end FailsOnly

section Checks

variable {check : α → Except ε Unit}

theorem forIn_eq_forM (xs : List α) :
    (forIn xs PUnit.unit fun x _ => do
      check x
      pure (ForInStep.yield PUnit.unit)) = xs.forM check := by
  induction xs with
  | nil => rfl
  | cons x xs ih =>
    rw [List.forIn_cons, List.forM, ← ih]
    cases check x <;> rfl

theorem forM_eq_ok : xs.forM check = .ok () ↔ ∀ x ∈ xs, check x = .ok () := by
  induction xs with
  | nil => simp [pure, Except.pure]
  | cons x xs ih =>
    rw [List.forM, check_bind_eq_ok, List.forall_mem_cons, ih]

theorem forM_eq_error : xs.forM check = .error e ↔ FailsFirst check xs e := by
  induction xs with
  | nil => simp [FailsFirst, pure, Except.pure]
  | cons x xs ih =>
    rw [List.forM, bind_eq_error, failsFirst_cons, ih, exists_and_right]

end Checks

end Scaffold
