import Mathlib.Data.List.Basic
import Scaffold.Template.Library

/-! # Renderers that remember

A renderer keeps the templates that it has found. Whatever it was asked before, it answers as a new
one would: what it remembers under a key is what it would find there again.
-/

namespace Scaffold.Template

/-- What a renderer can be asked for: a template, or its text. -/
inductive Call
  | load (category name : String)
  | render (category name : String) (scope : Scope)

def Call.key : Call → String
  | load category name => Packaged.keyOf category name
  | render category name _ => Packaged.keyOf category name

inductive Reply
  | template (p : Packaged)
  | text (s : String)

namespace Renderer

/-- The reply to a call, and the renderer that is left. -/
def answer (r : Renderer) : Call → Except Failure Reply × Renderer
  | .load category name =>
    let (found, next) := r.load (Packaged.keyOf category name)
    (Reply.template <$> found, next)
  | .render category name scope =>
    let (written, next) := r.render category name scope
    (Reply.text <$> written, next)

def answerAll (r : Renderer) : List Call → List (Except Failure Reply) × Renderer
  | [] => ([], r)
  | c :: cs =>
    let (reply, next) := r.answer c
    let (replies, last) := next.answerAll cs
    (reply :: replies, last)

variable {r r' : Renderer} {c : Call} {cs : List Call} {key : String} {p : Packaged}
  {result : Except Failure Packaged × Renderer}

/-! ### Looking a template up -/

/-- Under each key that a renderer remembers stands what is found under it, and each key stands
there once. -/
structure Faithful (r : Renderer) : Prop where
  found : ∀ key p, r.found.lookup key = some p → find? key = some p
  once : (r.found.map Prod.fst).Nodup

theorem faithful_new : Faithful {} where
  found _ _ h := by cases h
  once := List.nodup_nil

/-- How a renderer looks a template up: it remembers it, finds it for the first time, or complains
and remembers nothing. -/
inductive Loads (r : Renderer) (key : String) : Except Failure Packaged × Renderer → Prop
  | remembered {p : Packaged} (hf : find? key = some p) (hr : r.found.lookup key = some p) :
      Loads r key (.ok p, r)
  | found {p : Packaged} (hf : find? key = some p) (hr : r.found.lookup key = none) :
      Loads r key (.ok p, ⟨(key, p) :: r.found⟩)
  | missing (hf : find? key = none) :
      Loads r key (.error (Complaint.template key .notFound), r)

theorem Faithful.loads_load (h : r.Faithful) (key : String) : Loads r key (r.load key) := by
  rw [load]
  split
  · rename_i p hr
    exact .remembered (h.found key p hr) hr
  · rename_i hr
    split
    · exact .found ‹_› hr
    · exact .missing ‹_›

namespace Loads

/-- What comes of a look-up is settled by the key alone. -/
theorem result_eq (h : Loads r key result) :
    result.1 = (find? key).elim (.error (Complaint.template key .notFound)) .ok := by
  cases h with
  | remembered hf | found hf | missing hf =>
    rw [hf]
    rfl

theorem lookup_eq_some_iff (h : Loads r key result) {k : String} :
    result.2.found.lookup k = some p ↔
      r.found.lookup k = some p ∨ k = key ∧ find? key = some p := by
  cases h with
  | @remembered q hf hr =>
    refine ⟨Or.inl, ?_⟩
    rintro (h | ⟨rfl, hp⟩)
    · exact h
    · rwa [hr, ← hf]
  | @found q hf hr =>
    by_cases hk : k = key
    · subst hk
      simp [hr, hf]
    · simp [List.lookup_cons, beq_eq_false_iff_ne.mpr hk, hk]
  | missing hf => simp [hf]

theorem faithful (h : Loads r key result) (hr : r.Faithful) : result.2.Faithful := by
  constructor
  · intro k p hp
    rcases h.lookup_eq_some_iff.mp hp with hp | ⟨rfl, hp⟩
    · exact hr.found k p hp
    · exact hp
  · cases h with
    | remembered | missing => exact hr.once
    | found hf hn =>
      have hnew : key ∉ r.found.map Prod.fst := by
        intro hm
        obtain ⟨e, he, rfl⟩ := List.mem_map.mp hm
        exact bne_iff_ne.mp (List.lookup_eq_none_iff.mp hn e he) rfl
      exact List.nodup_cons.mpr ⟨hnew, hr.once⟩

end Loads

/-! ### Answering a call -/

theorem render_congr {category name : String} (scope : Scope)
    (h : (r.load (Packaged.keyOf category name)).1 = (r'.load (Packaged.keyOf category name)).1) :
    (r.render category name scope).1 = (r'.render category name scope).1 := by
  dsimp only [render]
  rw [h]

theorem answer_congr (h : (r.load c.key).1 = (r'.load c.key).1) :
    (r.answer c).1 = (r'.answer c).1 := by
  cases c with
  | load category name => exact congrArg (Reply.template <$> ·) h
  | render category name scope => exact congrArg (Reply.text <$> ·) (render_congr scope h)

theorem answer_snd (r : Renderer) (c : Call) : (r.answer c).2 = (r.load c.key).2 := by
  cases c <;> rfl

theorem Faithful.load_eq (h : r.Faithful) (key : String) :
    (r.load key).1 = (({} : Renderer).load key).1 := by
  rw [(h.loads_load key).result_eq, (faithful_new.loads_load key).result_eq]

theorem Faithful.answer_eq (h : r.Faithful) (c : Call) :
    (r.answer c).1 = (({} : Renderer).answer c).1 := answer_congr (h.load_eq c.key)

theorem Faithful.answer (h : r.Faithful) (c : Call) : (r.answer c).2.Faithful := by
  rw [answer_snd]
  exact (h.loads_load c.key).faithful h

/-! ### Answering calls in turn -/

theorem Faithful.answerAll_eq (h : r.Faithful) (cs : List Call) :
    (r.answerAll cs).1 = cs.map fun c => (({} : Renderer).answer c).1 := by
  induction cs generalizing r with
  | nil => rfl
  | cons c cs ih => exact congrArg₂ List.cons (h.answer_eq c) (ih (h.answer c))

theorem Faithful.answerAll (h : r.Faithful) (cs : List Call) : (r.answerAll cs).2.Faithful := by
  induction cs generalizing r with
  | nil => exact h
  | cons c cs ih => exact ih (h.answer c)

theorem Faithful.lookup_answerAll (h : r.Faithful) (cs : List Call) :
    (r.answerAll cs).2.found.lookup key = some p ↔
      r.found.lookup key = some p ∨ find? key = some p ∧ ∃ c ∈ cs, c.key = key := by
  induction cs generalizing r with
  | nil => simp [Renderer.answerAll]
  | cons c cs ih =>
    change ((r.answer c).2.answerAll cs).2.found.lookup key = some p ↔ _
    rw [ih (h.answer c), answer_snd, (h.loads_load c.key).lookup_eq_some_iff, or_assoc]
    refine or_congr_right ?_
    constructor
    · rintro (⟨rfl, hf⟩ | ⟨hf, d, hd, hk⟩)
      · exact ⟨hf, c, List.mem_cons_self, rfl⟩
      · exact ⟨hf, d, List.mem_cons_of_mem c hd, hk⟩
    · rintro ⟨hf, d, hd, rfl⟩
      rcases List.mem_cons.mp hd with rfl | hd
      · exact Or.inl ⟨rfl, hf⟩
      · exact Or.inr ⟨hf, d, hd, rfl⟩

/-- The texts that one renderer writes in turn are those that new ones would write. -/
theorem Faithful.renderAll_eq (h : r.Faithful) (items : List (String × String × Scope)) :
    r.renderAll items = items.map fun i => (({} : Renderer).render i.1 i.2.1 i.2.2).1 := by
  induction items generalizing r with
  | nil => rfl
  | cons i items ih =>
    obtain ⟨category, name, scope⟩ := i
    have hnext : (r.render category name scope).2.Faithful := h.answer (.render category name scope)
    exact congrArg₂ List.cons (render_congr scope (h.load_eq _)) (ih hnext)

/-- Calls on one renderer are answered as each would be by a new one. What is remembered behind
them is each template that there is under the key of a call, once under each such key, whether or
not its text could be written; so a call that failed makes no difference to those after it. -/
theorem answerAll_transparent (calls : List Call) :
    (({} : Renderer).answerAll calls).1 = calls.map (fun c => (({} : Renderer).answer c).1) ∧
    (∀ key p, (({} : Renderer).answerAll calls).2.found.lookup key = some p ↔
      find? key = some p ∧ ∃ c ∈ calls, c.key = key) ∧
    ((({} : Renderer).answerAll calls).2.found.map Prod.fst).Nodup ∧
    ∀ items, ({} : Renderer).renderAll items =
      items.map fun i => (({} : Renderer).render i.1 i.2.1 i.2.2).1 := by
  refine ⟨faithful_new.answerAll_eq calls, fun key p => ?_, (faithful_new.answerAll calls).once,
    faithful_new.renderAll_eq⟩
  rw [faithful_new.lookup_answerAll]
  simp

/-- Two keys of one template are remembered, though its text lacks a variable; a third one, under
which there is none, is not. -/
example : (({} : Renderer).answerAll [.load "drift" "dao.dart", .render "drift/." "dao.dart" [],
    .load "drift" "dao"]).2.found.map Prod.fst = ["drift/./dao.dart.j2", "drift/dao.dart.j2"] := by
  decide +kernel

end Renderer

end Scaffold.Template
