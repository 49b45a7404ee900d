import Scaffold.Proofs.Template.Marks

/-! # The lines of a template

A template whose instructions start and end with lines has lines of its own, each under the
instructions that lead to it. The lines of a text that it writes are these lines, filled in.
-/

namespace Scaffold.Template

open Scaffold.Template.Symbol (ofText)

variable {α β : Type} {ls ms : List (List (Symbol α))}

/-- The lines of a text; after its last line break there is one more. -/
def lines (xs : List (Symbol α)) : List (List (Symbol α)) := xs.splitOnP (Symbol.isChar '\n')

def ended (ls : List (List (Symbol α))) : List (Symbol α) := ls.flatMap (· ++ [.char '\n'])

theorem ended_cons (l : List (Symbol α)) : ended (l :: ls) = l ++ .char '\n' :: ended ls := by
  simp [ended]

theorem ended_append : ended (ls ++ ms) = ended ls ++ ended ms := by
  simp [ended]

theorem lines_ended (h : ∀ l ∈ ls, .char '\n' ∉ l) : lines (ended ls) = ls ++ [[]] := by
  induction ls with
  | nil => rfl
  | cons l ls ih =>
    obtain ⟨hl, hls⟩ := List.forall_mem_cons.mp h
    have hbreak : ∀ x ∈ l, x.isChar '\n' = false := by
      intro x hx
      by_contra hc
      rw [Bool.not_eq_false, Symbol.isChar_iff] at hc
      exact hl (hc ▸ hx)
    rw [ended_cons, lines, List.splitOnP_append_cons_of_forall_mem hbreak _ rfl]
    exact congrArg (l :: ·) (ih hls)

inductive Guard
  | bind (name : String) (e : Expr)
  | each (name : String) (items : Expr)
  | branch (condition : Expr) (taken : Bool)
  deriving DecidableEq, Repr

/-- The scopes in which an instruction goes on. -/
def Guard.reached (key : String) (scope : Scope) : Guard → List Scope
  | bind name e =>
    match e.eval key scope with
    | .ok v => [(name, v) :: scope]
    | .error _ => []
  | each name items =>
    match items.eval key scope >>= Value.items with
    | .ok vs => vs.map fun v => (name, v) :: scope
    | .error _ => []
  | branch condition taken =>
    match condition.eval key scope with
    | .ok v => if v.isTruthy = taken then [scope] else []
    | .error _ => []

def reached (key : String) : List Guard → Scope → List Scope
  | [], scope => [scope]
  | g :: gs, scope => (g.reached key scope).flatMap (reached key gs)

structure Line where
  guards : List Guard
  symbols : List (Symbol Expr)
  deriving DecidableEq, Repr

def Line.under (g : Guard) (l : Line) : Line := { l with guards := g :: l.guards }

/-- The lines that a text ends, the first of them begun by `pending`, and the line that it
begins. -/
def feed (pending : List (Symbol α)) : List Char → List (List (Symbol α)) × List (Symbol α)
  | [] => ([], pending)
  | c :: cs =>
    if c = '\n' then (pending :: (feed [] cs).1, (feed [] cs).2)
    else feed (pending ++ [.char c]) cs

inductive Script
  | done
  | text (cs : List Char) (next : Script)
  | emit (e : Expr) (next : Script)
  | bind (name : String) (e : Expr) (next : Script)
  | each (name : String) (items : Expr) (body next : Script)
  | choose (condition : Expr) (yes no next : Script)

def script : Template → Script
  | done => .done
  | text s next => .text s.toList next.script
  | emit e next => .emit e next.script
  | bind name e next => .bind name e next.script
  | each name items body next => .each name items body.script next.script
  | choose condition yes no next => .choose condition yes.script no.script next.script

/-- The lines of a template, the first of them begun by `pending`, if its instructions start and end
with lines. -/
def Script.scan (pending : List (Symbol Expr)) : Script → Option (List Line)
  | done => if pending = [] then some [] else none
  | text cs next => do
    let later ← next.scan (feed pending cs).2
    return (feed pending cs).1.map (Line.mk []) ++ later
  | emit e next => next.scan (pending ++ [.value e])
  | bind name e next =>
    if pending = [] then do
      let later ← next.scan []
      return later.map (Line.under (.bind name e))
    else none
  | each name items body next =>
    if pending = [] then do
      let inner ← body.scan []
      let later ← next.scan []
      return inner.map (Line.under (.each name items)) ++ later
    else none
  | choose condition yes no next =>
    if pending = [] then do
      let taken ← yes.scan []
      let other ← no.scan []
      let later ← next.scan []
      return taken.map (Line.under (.branch condition true)) ++
        other.map (Line.under (.branch condition false)) ++ later
    else none

/-- How the lines of a template are found: an instruction that leads to lines stands where no line
is begun. -/
inductive Scans : List (Symbol Expr) → Template → List Line → Prop
  | done : Scans [] .done []
  | text {pending : List (Symbol Expr)} {s : String} {next : Template} {later : List Line} :
      Scans (feed pending s.toList).2 next later →
      Scans pending (.text s next) ((feed pending s.toList).1.map (Line.mk []) ++ later)
  | emit {pending : List (Symbol Expr)} {e : Expr} {next : Template} {later : List Line} :
      Scans (pending ++ [.value e]) next later → Scans pending (.emit e next) later
  | bind {name : String} {e : Expr} {next : Template} {later : List Line} :
      Scans [] next later →
      Scans [] (.bind name e next) (later.map (Line.under (.bind name e)))
  | each {name : String} {items : Expr} {body next : Template} {inner later : List Line} :
      Scans [] body inner → Scans [] next later →
      Scans [] (.each name items body next)
        (inner.map (Line.under (.each name items)) ++ later)
  | choose {condition : Expr} {yes no next : Template} {taken other later : List Line} :
      Scans [] yes taken → Scans [] no other → Scans [] next later →
      Scans [] (.choose condition yes no next)
        (taken.map (Line.under (.branch condition true)) ++
          other.map (Line.under (.branch condition false)) ++ later)

theorem scans_of_scan {t : Template} {pending : List (Symbol Expr)} {found : List Line}
    (h : t.script.scan pending = some found) : Scans pending t found := by
  induction t generalizing pending found with
  | done =>
    obtain ⟨rfl, h⟩ := Option.ite_none_right_eq_some.mp h
    cases h
    exact .done
  | text s next ih =>
    obtain ⟨later, hlater, h⟩ := Option.bind_eq_some_iff.mp h
    cases h
    exact .text (ih hlater)
  | emit e next ih => exact .emit (ih h)
  | bind name e next ih =>
    obtain ⟨rfl, h⟩ := Option.ite_none_right_eq_some.mp h
    obtain ⟨later, hlater, h⟩ := Option.bind_eq_some_iff.mp h
    cases h
    exact .bind (ih hlater)
  | each name items body next ihb ihn =>
    obtain ⟨rfl, h⟩ := Option.ite_none_right_eq_some.mp h
    obtain ⟨inner, hinner, h⟩ := Option.bind_eq_some_iff.mp h
    obtain ⟨later, hlater, h⟩ := Option.bind_eq_some_iff.mp h
    cases h
    exact .each (ihb hinner) (ihn hlater)
  | choose condition yes no next ihy ihn ih =>
    obtain ⟨rfl, h⟩ := Option.ite_none_right_eq_some.mp h
    obtain ⟨taken, htaken, h⟩ := Option.bind_eq_some_iff.mp h
    obtain ⟨other, hother, h⟩ := Option.bind_eq_some_iff.mp h
    obtain ⟨later, hlater, h⟩ := Option.bind_eq_some_iff.mp h
    cases h
    exact .choose (ihy htaken) (ihn hother) (ih hlater)

def Expr.mark (key : String) (scope : Scope) (e : Expr) : Mark :=
  (e, match e.eval key scope with
    | .ok v => v.display
    | .error _ => "")

def fill (key : String) (scope : Scope) (xs : List (Symbol Expr)) : List (Symbol Mark) :=
  xs.map (Symbol.map (Expr.mark key scope))

/-- The lines of a text that a line of its template becomes. -/
def Line.filled (key : String) (scope : Scope) (l : Line) : List (List (Symbol Mark)) :=
  (reached key l.guards scope).map fun s => fill key s l.symbols

variable {key : String} {scope : Scope} {pending : List (Symbol Expr)} {found : List Line}
  {xs : List (Symbol Mark)}

theorem feed_eq (pending : List (Symbol α)) (cs : List Char) :
    pending ++ cs.map Symbol.char = ended (feed pending cs).1 ++ (feed pending cs).2 := by
  induction cs generalizing pending with
  | nil => simp [feed, ended]
  | cons c cs ih =>
    by_cases hc : c = '\n'
    · have hrest := ih []
      simp only [List.nil_append] at hrest
      simp [feed, hc, ended_cons, hrest]
    · have hrest := ih (pending ++ [.char c])
      simpa [feed, hc] using hrest

theorem fill_append (xs ys : List (Symbol Expr)) :
    fill key scope (xs ++ ys) = fill key scope xs ++ fill key scope ys :=
  List.map_append

theorem fill_ofText (s : String) : fill key scope (ofText s) = ofText s := by
  simp [fill, ofText, Symbol.map]

theorem fill_ended (ls : List (List (Symbol Expr))) :
    fill key scope (ended ls) = ended (ls.map (fill key scope)) := by
  induction ls with
  | nil => rfl
  | cons l ls ih =>
    rw [ended_cons, List.map_cons, ended_cons, fill_append, ← ih]
    rfl

theorem filled_under {g : Guard} {l : Line} :
    (l.under g).filled key scope = (g.reached key scope).flatMap fun s => l.filled key s := by
  simp [Line.filled, Line.under, reached, List.map_flatMap]

theorem mem_filled_under {g : Guard} {l : List (Symbol Mark)} :
    (∃ m ∈ found.map (Line.under g), l ∈ m.filled key scope) ↔
      ∃ s ∈ g.reached key scope, ∃ m ∈ found, l ∈ m.filled key s := by
  simp only [List.mem_map, exists_exists_and_eq_and, filled_under, List.mem_flatMap]
  constructor
  · rintro ⟨m, hm, s, hs, hl⟩
    exact ⟨s, hs, m, hm, hl⟩
  · rintro ⟨s, hs, m, hm, hl⟩
    exact ⟨m, hm, s, hs, hl⟩

/-- What holds of a text and the lines of its template: it ends the lines that they become. -/
def Ends (key : String) (scope : Scope) (found : List Line) (xs : List (Symbol Mark)) : Prop :=
  ∃ ls, xs = ended ls ∧ ∀ l, l ∈ ls ↔ ∃ m ∈ found, l ∈ m.filled key scope

theorem Ends.append {later : List Line} {ys : List (Symbol Mark)} (hx : Ends key scope found xs)
    (hy : Ends key scope later ys) : Ends key scope (found ++ later) (xs ++ ys) := by
  obtain ⟨ls, rfl, hl⟩ := hx
  obtain ⟨ms, rfl, hm⟩ := hy
  refine ⟨ls ++ ms, ended_append.symm, fun l => ?_⟩
  simp only [List.mem_append, hl, hm, or_and_right, exists_or]

theorem ends_nil : Ends key scope [] [] := ⟨[], rfl, by simp⟩

theorem Ends.under {g : Guard} {s : Scope} (hg : g.reached key scope = [s])
    (h : Ends key s found xs) : Ends key scope (found.map (Line.under g)) xs := by
  obtain ⟨ls, rfl, hl⟩ := h
  refine ⟨ls, rfl, fun l => ?_⟩
  rw [hl, mem_filled_under, hg]
  simp

/-- Lines that nothing leads to leave no trace. -/
theorem Ends.skipped (found : List Line) {g : Guard} (hg : g.reached key scope = []) :
    Ends key scope (found.map (Line.under g)) [] := by
  refine ⟨[], rfl, fun l => ?_⟩
  rw [mem_filled_under, hg]
  simp

theorem Ends.text {s : String} {later : List Line}
    (h : Ends key scope later (fill key scope (feed pending s.toList).2 ++ xs)) :
    Ends key scope ((feed pending s.toList).1.map (Line.mk []) ++ later)
      (fill key scope pending ++ (ofText s ++ xs)) := by
  have hfed : fill key scope pending ++ ofText s =
      ended ((feed pending s.toList).1.map (fill key scope)) ++
        fill key scope (feed pending s.toList).2 := by
    rw [← fill_ended, ← fill_append, ← feed_eq, fill_append]
    exact congrArg (_ ++ ·) (fill_ofText s).symm
  rw [← List.append_assoc, hfed, List.append_assoc]
  refine Ends.append ⟨_, rfl, fun l => ?_⟩ h
  simp [Line.filled, reached, eq_comm]

theorem Ends.flatten {name : String} {vs : List Value} {parts : List (List (Symbol Mark))}
    (h : List.Forall₂ (fun v part => Ends key ((name, v) :: scope) found part) vs parts) :
    ∃ ls, parts.flatten = ended ls ∧
      ∀ l, l ∈ ls ↔ ∃ v ∈ vs, ∃ m ∈ found, l ∈ m.filled key ((name, v) :: scope) := by
  induction h with
  | nil => exact ⟨[], rfl, by simp⟩
  | @cons v part vs parts hv _ ih =>
    obtain ⟨ls, rfl, hl⟩ := hv
    obtain ⟨ms, hparts, hm⟩ := ih
    refine ⟨ls ++ ms, by rw [List.flatten_cons, hparts, ended_append], fun l => ?_⟩
    rw [List.mem_append, hl, hm]
    simp

/-- The texts that a loop writes end the lines of its body, each once for every item. -/
theorem Ends.each {name : String} {items : Expr} {vs : List Value}
    {parts : List (List (Symbol Mark))} (hvs : items.eval key scope >>= Value.items = .ok vs)
    (h : List.Forall₂ (fun v part => Ends key ((name, v) :: scope) found part) vs parts) :
    Ends key scope (found.map (Line.under (.each name items))) parts.flatten := by
  obtain ⟨ls, hls, hl⟩ := Ends.flatten h
  refine ⟨ls, hls, fun l => ?_⟩
  rw [hl, mem_filled_under, Guard.reached, hvs]
  simp

/-- The text of the branch that is taken ends the lines of both branches: nothing leads to those of
the other. -/
theorem Ends.branch {condition : Expr} {v : Value} {taken other : List Line}
    (hv : condition.eval key scope = .ok v)
    (h : Ends key scope (if v.isTruthy then taken else other) xs) :
    Ends key scope (taken.map (Line.under (.branch condition true)) ++
      other.map (Line.under (.branch condition false))) xs := by
  have hreached (b : Bool) : (Guard.branch condition b).reached key scope =
      if v.isTruthy = b then [scope] else [] := by rw [Guard.reached, hv]
  cases ht : v.isTruthy with
  | true =>
    rw [ht, if_pos rfl] at h
    have hother : (Guard.branch condition false).reached key scope = [] := by
      rw [hreached, ht]
      rfl
    have hboth := (h.under ((hreached true).trans (if_pos ht))).append (Ends.skipped other hother)
    rwa [List.append_nil] at hboth
  | false =>
    rw [ht, if_neg Bool.false_ne_true] at h
    have htaken : (Guard.branch condition true).reached key scope = [] := by
      rw [hreached, ht]
      rfl
    exact (Ends.skipped taken htaken).append (h.under ((hreached false).trans (if_pos ht)))

/-- The lines of a text are the lines of its template, filled in. -/
theorem Scans.ends {t : Template} (hL : Scans pending t found)
    (hx : t.marked key scope = .ok xs) : Ends key scope found (fill key scope pending ++ xs) := by
  induction hL generalizing scope xs with
  | done =>
    cases hx
    exact ends_nil
  | text _ ih =>
    obtain ⟨rest, hrest, hx⟩ := bind_eq_ok.mp hx
    cases hx
    exact (ih hrest).text
  | @emit pending e next later _ ih =>
    obtain ⟨v, hv, hx⟩ := bind_eq_ok.mp hx
    obtain ⟨rest, hrest, hx⟩ := bind_eq_ok.mp hx
    cases hx
    have hmark : Expr.mark key scope e = (e, v.display) := by rw [Expr.mark, hv]
    have h := ih hrest
    rw [fill_append, List.append_assoc] at h
    rwa [← hmark]
  | bind _ ih =>
    obtain ⟨v, hv, hx⟩ := bind_eq_ok.mp hx
    refine (ih hx).under ?_
    rw [Guard.reached, hv]
  | @each name items body next inner later _ _ ihb ihn =>
    obtain ⟨v, hv, hx⟩ := bind_eq_ok.mp hx
    obtain ⟨vs, hvs, hx⟩ := bind_eq_ok.mp hx
    obtain ⟨parts, hparts, hx⟩ := bind_eq_ok.mp hx
    obtain ⟨rest, hrest, hx⟩ := bind_eq_ok.mp hx
    cases hx
    have hbodies : List.Forall₂ (fun v part => Ends key ((name, v) :: scope) inner part)
        vs parts := (mapM_eq_ok.mp hparts).imp fun v part h => ihb h
    exact (Ends.each (bind_eq_ok.mpr ⟨v, hv, hvs⟩) hbodies).append (ihn hrest)
  | @choose condition yes no next taken other later _ _ _ ihy ihn ih =>
    obtain ⟨v, part, rest, hv, hpart, hrest, rfl⟩ := exists_of_marked_choose hx
    have hbranch : Ends key scope (if v.isTruthy then taken else other) part := by
      generalize v.isTruthy = truth at hpart ⊢
      cases truth with
      | true => exact ihy hpart
      | false => exact ihn hpart
    exact (hbranch.branch hv).append (ih hrest)

theorem feed_unbroken (h : .char '\n' ∉ pending) (cs : List Char) :
    (∀ l ∈ (feed pending cs).1, .char '\n' ∉ l) ∧ .char '\n' ∉ (feed pending cs).2 := by
  induction cs generalizing pending with
  | nil => exact ⟨by simp [feed], h⟩
  | cons c cs ih =>
    by_cases hc : c = '\n'
    · have hnil : Symbol.char '\n' ∉ ([] : List (Symbol Expr)) := by simp
      obtain ⟨hls, hrest⟩ := ih hnil
      simp only [feed, hc, if_true]
      exact ⟨List.forall_mem_cons.mpr ⟨h, hls⟩, hrest⟩
    · simp only [feed, hc, if_false]
      exact ih (by simp [h, Ne.symm hc])

theorem unbroken_under {g : Guard} (h : ∀ l ∈ found, .char '\n' ∉ l.symbols) :
    ∀ l ∈ found.map (Line.under g), .char '\n' ∉ l.symbols := by
  intro l hl
  obtain ⟨m, hm, rfl⟩ := List.mem_map.mp hl
  exact h m hm

theorem Scans.unbroken {t : Template} (hL : Scans pending t found) (h : .char '\n' ∉ pending) :
    ∀ l ∈ found, .char '\n' ∉ l.symbols := by
  have hnil : Symbol.char '\n' ∉ ([] : List (Symbol Expr)) := by simp
  induction hL with
  | done => simp
  | @text pending s _ _ _ ih =>
    obtain ⟨hls, hrest⟩ := feed_unbroken h s.toList
    rw [List.forall_mem_append, List.forall_mem_map]
    exact ⟨hls, ih hrest⟩
  | emit _ ih => exact ih (by simp [h])
  | bind _ ih => exact unbroken_under (ih hnil)
  | each _ _ ihb ihn =>
    rw [List.forall_mem_append]
    exact ⟨unbroken_under (ihb hnil), ihn hnil⟩
  | choose _ _ _ ihy ihn ih =>
    rw [List.forall_mem_append, List.forall_mem_append]
    exact ⟨⟨unbroken_under (ihy hnil), unbroken_under (ihn hnil)⟩, ih hnil⟩

theorem mem_lines_marked {t : Template} {l : List (Symbol Mark)}
    (hL : t.script.scan [] = some found) (hx : t.marked key scope = .ok xs) :
    l ∈ lines xs ↔ l = [] ∨ ∃ m ∈ found, l ∈ m.filled key scope := by
  have hscans : Scans [] t found := scans_of_scan hL
  obtain ⟨ls, rfl, hl⟩ : Ends key scope found xs := hscans.ends hx
  have hunbroken : ∀ l ∈ ls, Symbol.char '\n' ∉ l := by
    intro l hm hbreak
    obtain ⟨m, hfound, hfilled⟩ := (hl l).mp hm
    obtain ⟨s, -, rfl⟩ := List.mem_map.mp hfilled
    obtain ⟨x, hx, he⟩ := List.mem_map.mp hbreak
    cases x with
    | char c =>
      cases he
      exact hscans.unbroken (by simp) m hfound hx
    | value a => cases he
  rw [lines_ended hunbroken, List.mem_append, List.mem_singleton, hl, or_comm]

/-! ### Reading lines -/

/-- What is read in the lines of a template, each part under the instructions of its line. -/
def Script.read? (read : List (Symbol Expr) → List (List (Symbol Expr))) (t : Script) :
    Option (List Line) := do
  let found ← t.scan []
  return (found.flatMap fun l => (read l.symbols).map (Line.mk l.guards)).eraseDups

/-- What is read in a text is what is read in its template, filled in, if reading does not depend on
what the values are. -/
theorem mem_read {read : List (Symbol Expr) → List (List (Symbol Expr))}
    {readMarked : List (Symbol Mark) → List (List (Symbol Mark))}
    (hread : ∀ s l, readMarked (fill key s l) = (read l).map (fill key s))
    (hempty : readMarked [] = []) {t : Template} (hn : t.script.read? read = some found)
    (hx : t.marked key scope = .ok xs) {w : List (Symbol Mark)} :
    w ∈ (lines xs).flatMap readMarked ↔ ∃ m ∈ found, w ∈ m.filled key scope := by
  obtain ⟨ls, hls, hn⟩ := Option.bind_eq_some_iff.mp hn
  cases hn
  simp only [List.mem_flatMap, mem_lines_marked hls hx, List.mem_eraseDups]
  constructor
  · rintro ⟨l, rfl | ⟨m, hm, hl⟩, hw⟩
    · rw [hempty] at hw
      cases hw
    · obtain ⟨s, hs, rfl⟩ := List.mem_map.mp hl
      rw [hread] at hw
      obtain ⟨v, hv, rfl⟩ := List.mem_map.mp hw
      exact ⟨⟨m.guards, v⟩, ⟨m, hm, List.mem_map.mpr ⟨v, hv, rfl⟩⟩, List.mem_map.mpr ⟨s, hs, rfl⟩⟩
  · rintro ⟨_, ⟨m, hm, hword⟩, hw⟩
    obtain ⟨v, hv, rfl⟩ := List.mem_map.mp hword
    obtain ⟨s, hs, rfl⟩ := List.mem_map.mp hw
    refine ⟨fill key s m.symbols, Or.inr ⟨m, hm, List.mem_map.mpr ⟨s, hs, rfl⟩⟩, ?_⟩
    rw [hread]
    exact List.mem_map.mpr ⟨v, hv, rfl⟩

end Scaffold.Template
