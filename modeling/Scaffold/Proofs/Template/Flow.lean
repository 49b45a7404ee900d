import Scaffold.Proofs.Name.Style
import Scaffold.Proofs.Template.Marks

/-! # What flows into a text

Two runs of a template differ only in what its variables hold. Shapes say how the values of two runs
may differ, and a template is checked against the shapes of its variables. Then both runs yield a
text, and the two texts are the same up to the characters of a class that names may be made of.
-/

namespace Scaffold

/-- What a text holds besides the characters of a class. -/
def skeleton (free : Char → Bool) (s : String) : List Char := s.toList.filter fun c => !free c

section

variable {free : Char → Bool} {s t : String}

theorem skeleton_append : skeleton free (s ++ t) = skeleton free s ++ skeleton free t := by
  simp [skeleton]

theorem skeleton_eq_nil : skeleton free s = [] ↔ ∀ c ∈ s.toList, free c = true := by
  simp [skeleton]

theorem skeleton_append_congr {s' t' : String} (hs : skeleton free s = skeleton free s')
    (ht : skeleton free t = skeleton free t') :
    skeleton free (s ++ t) = skeleton free (s' ++ t') := by
  rw [skeleton_append, skeleton_append, hs, ht]

theorem skeleton_join_congr {ss ts : List String}
    (h : List.Forall₂ (fun s t => skeleton free s = skeleton free t) ss ts) :
    skeleton free (String.join ss) = skeleton free (String.join ts) := by
  induction h with
  | nil => rfl
  | cons h _ ih =>
    rw [String.join_cons, String.join_cons]
    exact skeleton_append_congr h ih

end

namespace Template

/-- How the plain values of two runs may differ: both are texts of free characters, or texts with
one skeleton, or truth values, which agree or not. -/
inductive Leaf
  | free
  | alike
  | agreed
  | flag
  deriving DecidableEq, Repr

inductive IsFree (free : Char → Bool) : Value → Prop
  | text {s : String} : skeleton free s = [] → IsFree free (.text s)

inductive Leaf.Relates (free : Char → Bool) : Leaf → Value → Value → Prop
  | free {v w : Value} : IsFree free v → IsFree free w → Relates free .free v w
  | alike {s t : String} : skeleton free s = skeleton free t →
      Relates free .alike (.text s) (.text t)
  | agreed (b : Bool) : Relates free .agreed (.bool b) (.bool b)
  | flag (b c : Bool) : Relates free .flag (.bool b) (.bool c)

abbrev Fields := List (String × Leaf)

def Fields.Relates (free : Char → Bool) (fields : Fields) (v w : Value) : Prop :=
  ∀ f ∈ fields, ∃ a b, v.field? f.1 = some a ∧ w.field? f.1 = some b ∧ f.2.Relates free a b

/-- How the values of two runs may differ; lists of records have one length. -/
inductive Shape
  | leaf (l : Leaf)
  | record (fields : Fields)
  | records (fields : Fields)
  deriving DecidableEq, Repr

inductive Shape.Relates (free : Char → Bool) : Shape → Value → Value → Prop
  | leaf {l : Leaf} {v w : Value} : l.Relates free v w → Relates free (.leaf l) v w
  | record {fields : Fields} {v w : Value} : fields.Relates free v w →
      Relates free (.record fields) v w
  | records {fields : Fields} {vs ws : List Value} : List.Forall₂ (fields.Relates free) vs ws →
      Relates free (.records fields) (.list vs) (.list ws)

namespace Shape

def isText : Shape → Bool
  | leaf .free | leaf .alike => true
  | _ => false

/-- Whether a value of this shape counts as present in both runs or in neither. -/
def isSettled : Shape → Bool
  | leaf .agreed | records _ => true
  | _ => false

end Shape

/-- The shapes of the variables in scope; the first of a name counts. -/
abbrev Shapes := List (String × Shape)

def Shapes.Relates (free : Char → Bool) (shapes : Shapes) (scope scope' : Scope) : Prop :=
  ∀ name shape, shapes.lookup name = some shape →
    ∃ v w, scope.lookup name = some v ∧ scope'.lookup name = some w ∧ shape.Relates free v w

/-- The shape of an expression. Only texts of free characters may be respelled or depend on a
condition. -/
def Expr.shape? (free : Char → Bool) (shapes : Shapes) : Expr → Option Shape
  | var name => shapes.lookup name
  | literal s => some (.leaf (if skeleton free s = [] then .free else .alike))
  | member owner field =>
    match owner.shape? free shapes with
    | some (.record fields) => (fields.lookup field).map .leaf
    | _ => none
  | filter f e =>
    if e.shape? free shapes = some (.leaf .free) ∧ (f = .kebab → free '-' = true) then
      some (.leaf .free)
    else none
  | choose condition yes no =>
    if (condition.shape? free shapes).isSome ∧ yes.shape? free shapes = some (.leaf .free) ∧
        no.shape? free shapes = some (.leaf .free) then
      some (.leaf .free)
    else none

/-- Whether what a template writes depends on its variables in free characters only: both runs take
the same branches and go through lists of one length, and no record or truth value is written. -/
def isShaped (free : Char → Bool) (shapes : Shapes) : Template → Bool
  | done => true
  | text _ next => next.isShaped free shapes
  | emit e next => (e.shape? free shapes).any Shape.isText && next.isShaped free shapes
  | bind name e next =>
    match e.shape? free shapes with
    | some shape => next.isShaped free ((name, shape) :: shapes)
    | none => false
  | each name items body next =>
    match items.shape? free shapes with
    | some (.records fields) =>
      body.isShaped free ((name, .record fields) :: shapes) && next.isShaped free shapes
    | _ => false
  | choose condition yes no next =>
    (condition.shape? free shapes).any Shape.isSettled && yes.isShaped free shapes &&
      no.isShaped free shapes && next.isShaped free shapes

variable {free : Char → Bool} {shapes : Shapes} {shape : Shape} {scope scope' : Scope}
  {key name : String} {v w : Value}

namespace Shapes

theorem relates_nil : Shapes.Relates free [] scope scope' := by
  rintro name shape ⟨⟩

theorem Relates.cons (hv : shape.Relates free v w) (h : shapes.Relates free scope scope') :
    Shapes.Relates free ((name, shape) :: shapes) ((name, v) :: scope) ((name, w) :: scope') := by
  intro asked found hf
  rw [List.lookup_cons] at hf
  simp only [List.lookup_cons]
  split at hf
  · cases hf
    exact ⟨v, w, rfl, rfl, hv⟩
  · exact h asked found hf

end Shapes

theorem Fields.Relates.lookup {fields : Fields} {l : Leaf} (h : fields.Relates free v w)
    (hl : fields.lookup name = some l) :
    ∃ a b, v.field? name = some a ∧ w.field? name = some b ∧ l.Relates free a b := by
  obtain ⟨pre, post, he, -⟩ := List.lookup_eq_some_iff.mp hl
  exact h (name, l) (he ▸ List.mem_append_cons_self)

theorem Shape.Relates.display (h : shape.Relates free v w) (ht : shape.isText = true) :
    skeleton free v.display = skeleton free w.display := by
  cases h with
  | leaf h =>
    cases h with
    | free hv hw =>
      obtain ⟨hs⟩ := hv
      obtain ⟨ht⟩ := hw
      exact hs.trans ht.symm
    | alike h => exact h
    | agreed | flag => cases ht
  | record | records => cases ht

theorem Shape.Relates.isTruthy (h : shape.Relates free v w) (hs : shape.isSettled = true) :
    v.isTruthy = w.isTruthy := by
  cases h with
  | leaf h =>
    cases h with
    | agreed => rfl
    | free | alike | flag => cases hs
  | record => cases hs
  | records h => cases h <;> rfl

namespace IsFree

variable {s t : String} {f : Filter}

theorem iff_forall : IsFree free (.text s) ↔ ∀ c ∈ s.toList, free c = true := by
  rw [← skeleton_eq_nil]
  exact ⟨fun ⟨h⟩ => h, .text⟩

theorem append (hs : IsFree free (.text s)) (ht : IsFree free (.text t)) :
    IsFree free (.text (s ++ t)) := by
  obtain ⟨hs⟩ := hs
  obtain ⟨ht⟩ := ht
  exact .text (by rw [skeleton_append, hs, ht, List.append_nil])

theorem apply (hp : Name.Closed free) (hf : f = .kebab → free '-' = true)
    (h : IsFree free (.text s)) : IsFree free (.text (f.apply s)) :=
  iff_forall.mpr (hp.apply hf (iff_forall.mp h))

theorem applyTo (hp : Name.Closed free) (hf : f = .kebab → free '-' = true) (h : IsFree free v) :
    ∃ w, f.applyTo v = .ok w ∧ IsFree free w := by
  cases h with
  | text hs => exact ⟨_, rfl, (text hs).apply hp hf⟩

end IsFree

theorem Expr.eval_choose {condition yes no : Expr} {u a b : Value}
    (hu : condition.eval key scope = .ok u) (ha : yes.eval key scope = .ok a)
    (hb : no.eval key scope = .ok b) :
    (choose condition yes no).eval key scope = .ok (if u.isTruthy then a else b) := by
  refine bind_eq_ok.mpr ⟨u, hu, ?_⟩
  split
  · exact ha
  · exact hb

/-- In two runs an expression has values that differ as its shape says. -/
theorem Expr.eval_relates (hp : Name.Closed free) (hs : shapes.Relates free scope scope')
    (e : Expr) (h : e.shape? free shapes = some shape) :
    ∃ v w, e.eval key scope = .ok v ∧ e.eval key scope' = .ok w ∧ shape.Relates free v w := by
  induction e generalizing shape with
  | var name =>
    obtain ⟨v, w, hv, hw, hr⟩ := hs name shape h
    exact ⟨v, w, by rw [eval, hv], by rw [eval, hw], hr⟩
  | literal s =>
    rw [shape?, Option.some_inj] at h
    subst h
    refine ⟨_, _, rfl, rfl, .leaf ?_⟩
    split
    · rename_i hn
      exact .free (.text hn) (.text hn)
    · exact .alike rfl
  | member owner field ih =>
    rw [shape?] at h
    split at h
    · rename_i fields ho
      obtain ⟨l, hl, rfl⟩ := Option.map_eq_some_iff.mp h
      obtain ⟨v, w, hv, hw, hr⟩ := ih ho
      cases hr with
      | record hr =>
        obtain ⟨a, b, ha, hb, hab⟩ := hr.lookup hl
        refine ⟨a, b, ?_, ?_, .leaf hab⟩
        · exact bind_eq_ok.mpr ⟨v, hv, by rw [ha]⟩
        · exact bind_eq_ok.mpr ⟨w, hw, by rw [hb]⟩
    · cases h
  | filter f e ih =>
    rw [shape?] at h
    split at h
    · rename_i hf
      cases h
      obtain ⟨v, w, hv, hw, hr⟩ := ih hf.1
      cases hr with
      | leaf hr =>
        obtain ⟨hfv, hfw⟩ := hr
        obtain ⟨v', hv', hfv'⟩ := hfv.applyTo hp hf.2
        obtain ⟨w', hw', hfw'⟩ := hfw.applyTo hp hf.2
        exact ⟨v', w', bind_eq_ok.mpr ⟨v, hv, hv'⟩, bind_eq_ok.mpr ⟨w, hw, hw'⟩,
          .leaf (.free hfv' hfw')⟩
    · cases h
  | choose condition yes no ihc ihy ihn =>
    rw [shape?] at h
    split at h
    · rename_i hf
      cases h
      obtain ⟨hc, hy, hn⟩ := hf
      obtain ⟨sc, hc⟩ := Option.isSome_iff_exists.mp hc
      obtain ⟨v, w, hv, hw, -⟩ := ihc hc
      obtain ⟨y, y', hy, hy', ⟨hry⟩⟩ := ihy hy
      obtain ⟨n, n', hn, hn', ⟨hrn⟩⟩ := ihn hn
      obtain ⟨hfy, hfy'⟩ := hry
      obtain ⟨hfn, hfn'⟩ := hrn
      -- the runs may take different branches, so each result is free for itself
      refine ⟨_, _, eval_choose hv hy hn, eval_choose hw hy' hn', .leaf (.free ?_ ?_)⟩
      · split
        · exact hfy
        · exact hfn
      · split
        · exact hfy'
        · exact hfn'
    · cases h

theorem render_text {s t : String} {next : Template} (h : next.render key scope = .ok t) :
    (text s next).render key scope = .ok (s ++ t) :=
  bind_eq_ok.mpr ⟨t, h, rfl⟩

theorem render_emit {s t : String} {e : Expr} {next : Template}
    (he : e.eval key scope = .ok (.text s)) (h : next.render key scope = .ok t) :
    (emit e next).render key scope = .ok (s ++ t) :=
  bind_eq_ok.mpr ⟨.text s, he, bind_eq_ok.mpr ⟨t, h, rfl⟩⟩

theorem render_bind {t : String} {e : Expr} {next : Template} (he : e.eval key scope = .ok v)
    (h : next.render key ((name, v) :: scope) = .ok t) :
    (bind name e next).render key scope = .ok t :=
  bind_eq_ok.mpr ⟨v, he, h⟩

theorem render_each {items : Expr} {body next : Template} {vs : List Value} {ss : List String}
    {a : String} (hv : items.eval key scope = .ok v) (hi : v.items = .ok vs)
    (hs : vs.mapM (fun v => body.render key ((name, v) :: scope)) = .ok ss)
    (ha : next.render key scope = .ok a) :
    (each name items body next).render key scope = .ok (String.join ss ++ a) :=
  bind_eq_ok.mpr ⟨v, hv, bind_eq_ok.mpr ⟨vs, hi, bind_eq_ok.mpr ⟨ss, hs,
    bind_eq_ok.mpr ⟨a, ha, rfl⟩⟩⟩⟩

theorem render_choose {condition : Expr} {yes no next : Template} {a b : String}
    (hv : condition.eval key scope = .ok v)
    (ha : (if v.isTruthy then yes else no).render key scope = .ok a)
    (hb : next.render key scope = .ok b) :
    (choose condition yes no next).render key scope = .ok (a ++ b) := by
  rw [render_choose_eq]
  exact bind_eq_ok.mpr ⟨v, hv, bind_eq_ok.mpr ⟨a, ha, bind_eq_ok.mpr ⟨b, hb, rfl⟩⟩⟩

/-- Two runs of a template with shapes both write a text, and the texts have one skeleton. -/
theorem render_relates (key : String) (hp : Name.Closed free)
    (hs : shapes.Relates free scope scope') (t : Template) (h : t.isShaped free shapes = true) :
    ∃ a b, t.render key scope = .ok a ∧ t.render key scope' = .ok b ∧
      skeleton free a = skeleton free b := by
  induction t generalizing shapes scope scope' with
  | done => exact ⟨_, _, rfl, rfl, rfl⟩
  | text s next ih =>
    obtain ⟨a, b, ha, hb, hab⟩ := ih hs h
    exact ⟨s ++ a, s ++ b, bind_eq_ok.mpr ⟨a, ha, rfl⟩, bind_eq_ok.mpr ⟨b, hb, rfl⟩,
      skeleton_append_congr rfl hab⟩
  | emit e next ih =>
    rw [isShaped, Bool.and_eq_true] at h
    obtain ⟨shape, he, ht⟩ := (Option.any_eq_true _ _).mp h.1
    obtain ⟨v, w, hv, hw, hr⟩ := e.eval_relates hp hs he
    obtain ⟨a, b, ha, hb, hab⟩ := ih hs h.2
    exact ⟨v.display ++ a, w.display ++ b, bind_eq_ok.mpr ⟨v, hv, bind_eq_ok.mpr ⟨a, ha, rfl⟩⟩,
      bind_eq_ok.mpr ⟨w, hw, bind_eq_ok.mpr ⟨b, hb, rfl⟩⟩,
      skeleton_append_congr (hr.display ht) hab⟩
  | bind name e next ih =>
    rw [isShaped] at h
    split at h
    · rename_i shape he
      obtain ⟨v, w, hv, hw, hr⟩ := e.eval_relates hp hs he
      obtain ⟨a, b, ha, hb, hab⟩ := ih (hs.cons hr) h
      exact ⟨a, b, bind_eq_ok.mpr ⟨v, hv, ha⟩, bind_eq_ok.mpr ⟨w, hw, hb⟩, hab⟩
    · cases h
  | each name items body next ihb ihn =>
    rw [isShaped] at h
    split at h
    · rename_i fields hi
      rw [Bool.and_eq_true] at h
      obtain ⟨v, w, hv, hw, hr⟩ := items.eval_relates hp hs hi
      obtain ⟨a, b, ha, hb, hab⟩ := ihn hs h.2
      cases hr with
      | records hr =>
        obtain ⟨ss, ts, hss, hts, hst⟩ :=
          mapM_relates hr fun v w hvw => ihb (hs.cons (.record hvw)) h.1
        exact ⟨String.join ss ++ a, String.join ts ++ b,
          render_each hv rfl hss ha, render_each hw rfl hts hb,
          skeleton_append_congr (skeleton_join_congr hst) hab⟩
    · cases h
  | choose condition yes no next ihy ihn ih =>
    simp only [isShaped, Bool.and_eq_true] at h
    obtain ⟨⟨⟨hc, hy⟩, hn⟩, h⟩ := h
    obtain ⟨shape, he, ht⟩ := (Option.any_eq_true _ _).mp hc
    obtain ⟨v, w, hv, hw, hr⟩ := condition.eval_relates hp hs he
    obtain ⟨a, b, ha, hb, hab⟩ := ih hs h
    -- both runs take the same branch
    have hbranch : ∃ c d, (if v.isTruthy then yes else no).render key scope = .ok c ∧
        (if w.isTruthy then yes else no).render key scope' = .ok d ∧
        skeleton free c = skeleton free d := by
      rw [hr.isTruthy ht]
      split
      · exact ihy hs hy
      · exact ihn hs hn
    obtain ⟨c, d, hc, hd, hcd⟩ := hbranch
    exact ⟨c ++ a, d ++ b, render_choose hv hc ha, render_choose hw hd hb,
      skeleton_append_congr hcd hab⟩

end Template

end Scaffold
