import Scaffold.Proofs.Name.Types
import Scaffold.Proofs.Template.Identifiers

/-! # The types in a text

The state of a provider and the fields of a model are written with their types. What stands behind a
type, like the type itself, can be read off the template. The types of the parameters of a route are
not written, but for those that are read from a path.
-/

namespace Scaffold

open Name (isIdentifier isTypeName Delimited Stands)

namespace Template

open Scaffold.Template.Symbol (ofText)

variable {α β : Type}

def Expr.isType : Expr → Bool
  | var name => name == "state"
  | literal _ => false
  | member _ field => field == "dart_type"
  | filter _ _ => false
  | choose _ _ _ => false

def opensType (isType : α → Bool) : List (Symbol α) → Bool
  | [] => false
  | .char _ :: _ => false
  | .value a :: _ => isType a

/-- The types in a line, each with what stands behind it. -/
def lineTypes (isType : α → Bool) (line : List (Symbol α)) : List (List (Symbol α)) :=
  line.tails.filter (opensType isType)

def types (xs : List (Symbol Mark)) : List (List (Symbol Mark)) :=
  (lines xs).flatMap (lineTypes fun m => m.1.isType)

def Script.types? (t : Script) : Option (List Line) := t.read? (lineTypes Expr.isType)

theorem lineTypes_map {f : α → β} (isType : β → Bool) (line : List (Symbol α)) :
    lineTypes isType (line.map (Symbol.map f)) =
      (lineTypes (isType ∘ f) line).map (List.map (Symbol.map f)) := by
  have hopens : opensType isType ∘ List.map (Symbol.map f) = opensType (isType ∘ f) := by
    funext l
    cases l with
    | nil => rfl
    | cons x l => cases x <;> rfl
  rw [lineTypes, List.map_tails, List.filter_map, hopens, lineTypes]

variable {key : String} {scope : Scope} {found : List Line} {xs : List (Symbol Mark)}

theorem mem_types_marked {t : Template} {w : List (Symbol Mark)}
    (ht : t.script.types? = some found) (hx : t.marked key scope = .ok xs) :
    w ∈ types xs ↔ ∃ l ∈ found, w ∈ l.filled key scope :=
  mem_read (fun _ _ => lineTypes_map _ _) rfl ht hx

/-! ### Characters that no value writes -/

def Symbol.mayWrite (p : Char → Bool) : Symbol α → Bool
  | char c => p c
  | value _ => true

def lineWriters (p : Char → Bool) (line : List (Symbol α)) : List (List (Symbol α)) :=
  (line.filter (Symbol.mayWrite p)).map fun x => [x]

def Script.writers? (p : Char → Bool) (t : Script) : Option (List Line) := t.read? (lineWriters p)

variable {p : Char → Bool}

theorem lineWriters_map {f : α → β} (line : List (Symbol α)) :
    lineWriters p (line.map (Symbol.map f)) =
      (lineWriters p line).map (List.map (Symbol.map f)) := by
  have hwrite : Symbol.mayWrite p ∘ Symbol.map f = Symbol.mayWrite p :=
    funext fun x => by cases x <;> rfl
  rw [lineWriters, List.filter_map, hwrite, lineWriters, List.map_map, List.map_map]
  rfl

theorem mem_lines {ys : List (Symbol α)} {x : Symbol α} (h : x ∈ ys) :
    x = .char '\n' ∨ ∃ l ∈ lines ys, x ∈ l := by
  induction ys with
  | nil => cases h
  | cons y ys ih =>
    rw [lines, List.splitOnP_cons_eq_if_modifyHead]
    split
    · rename_i hbreak
      rcases List.mem_cons.mp h with rfl | h
      · exact Or.inl (Symbol.isChar_iff.mp hbreak)
      · rcases ih h with hx | ⟨l, hl, hx⟩
        · exact Or.inl hx
        · exact Or.inr ⟨l, List.mem_cons_of_mem _ hl, hx⟩
    · cases hrest : ys.splitOnP (Symbol.isChar '\n') with
      | nil => exact absurd hrest (List.splitOnP_ne_nil _ _)
      | cons m ms =>
        rw [lines, hrest] at ih
        simp only [List.modifyHead_cons]
        rcases List.mem_cons.mp h with rfl | h
        · exact Or.inr ⟨_, List.mem_cons_self, List.mem_cons_self⟩
        · rcases ih h with hx | ⟨l, hl, hx⟩
          · exact Or.inl hx
          · rcases List.mem_cons.mp hl with rfl | hl
            · exact Or.inr ⟨_, List.mem_cons_self, List.mem_cons_of_mem _ hx⟩
            · exact Or.inr ⟨l, List.mem_cons_of_mem _ hl, hx⟩

theorem forall_of_any {cs : List Char} (h : cs.any p = false) : ∀ c ∈ cs, p c = false :=
  fun c hc => Bool.eq_false_iff.mpr (List.any_eq_false.mp h c hc)

/-- Whether a line of a template holds no character of a class wherever it is written. -/
def Line.Avoids (p : Char → Bool) (key : String) (scope : Scope) (l : Line) : Prop :=
  ∀ s ∈ reached key l.guards scope, ∀ c ∈ spelling key s l.symbols, p c = false

/-- A text avoids a class of characters if what may write them does. -/
theorem forall_plain {t : Template} (ht : t.script.writers? p = some found)
    (hx : t.marked key scope = .ok xs) (hbreak : p '\n' = false)
    (h : ∀ l ∈ found, l.Avoids p key scope) : ∀ c ∈ (plain xs).toList, p c = false := by
  intro c hc
  rw [plain, String.toList_ofList] at hc
  obtain ⟨x, hmem, hcx⟩ := List.mem_flatMap.mp hc
  by_contra hp
  rw [Bool.not_eq_false] at hp
  have hwrite : x.mayWrite p = true := by
    cases x with
    | char d =>
      rw [← List.mem_singleton.mp hcx]
      exact hp
    | value m => rfl
  rcases mem_lines hmem with rfl | ⟨l, hl, hxl⟩
  · rw [List.mem_singleton.mp hcx, hbreak] at hp
    cases hp
  · have hread : [x] ∈ (lines xs).flatMap (lineWriters p) :=
      List.mem_flatMap.mpr ⟨l, hl, List.mem_map.mpr ⟨x, List.mem_filter.mpr ⟨hxl, hwrite⟩, rfl⟩⟩
    rw [mem_read (fun _ _ => lineWriters_map _) rfl ht hx] at hread
    obtain ⟨m, hm, hw⟩ := hread
    obtain ⟨s, hs, hfill⟩ := List.mem_map.mp hw
    have hspell : c ∈ spelling key s m.symbols := by
      rw [spelling, hfill]
      exact List.mem_flatMap.mpr ⟨x, List.mem_singleton_self x, hcx⟩
    rw [h m hm s hs c hspell] at hp
    cases hp

theorem Expr.mark_of_eval {e : Expr} {t : String} (h : e.eval key scope = .ok (.text t)) :
    e.mark key scope = (e, t) := by
  rw [mark, h]
  rfl

section Avoids

variable {guards : List Guard} {s : Scope} {e : Expr}

theorem forall_spelling_value {t : String} (hv : e.eval key s = .ok (.text t))
    (ht : ∀ c ∈ t.toList, p c = false) : ∀ c ∈ spelling key s [.value e], p c = false := by
  rw [spelling_value, Expr.mark_of_eval hv, spelling_nil, List.append_nil]
  exact ht

theorem Line.Avoids.value {t : String} (hs : reached key guards scope = [s])
    (hv : e.eval key s = .ok (.text t)) (ht : ∀ c ∈ t.toList, p c = false) :
    (Line.mk guards [.value e]).Avoids p key scope := by
  rw [Line.Avoids, hs, List.forall_mem_singleton]
  exact forall_spelling_value hv ht

theorem Line.Avoids.each {n : String} {items : Expr} {as : List α} {f : α → Value} {t : α → String}
    (hs : reached key guards scope = [s]) (hitems : items.eval key s = .ok (.list (as.map f)))
    (hv : ∀ a, e.eval key ((n, f a) :: s) = .ok (.text (t a)))
    (ht : ∀ a ∈ as, ∀ c ∈ (t a).toList, p c = false) :
    (Line.mk (guards ++ [.each n items]) [.value e]).Avoids p key scope := by
  rw [Line.Avoids, reached_each hs hitems, List.forall_mem_map]
  intro a ha
  exact forall_spelling_value (hv a) (ht a ha)

theorem Line.Avoids.branch {w : List (Symbol Expr)} (h : (Line.mk guards w).Avoids p key scope)
    (c : Expr) (b : Bool) : (Line.mk (.branch c b :: guards) w).Avoids p key scope :=
  fun s hs => h s (mem_reached_of_branch hs)

end Avoids

/-! ### Types that stand -/

/-- The types in a text are those that are asked for, each in front of what ends it. -/
structure TypesStand (asked : String → Prop) (xs : List (Symbol Mark)) : Prop where
  asked_iff : ∀ t, asked t ↔ ∃ m rest, .value m :: rest ∈ types xs ∧ m.2 = t
  stands : ∀ m rest, .value m :: rest ∈ types xs → Stands m.2.toList (spelled rest)

/-- A type of a template, which is an accepted one wherever it is written and has behind it what
ends a type. -/
def Line.Shows (key : String) (scope : Scope) (asked : String → Prop) (l : Line) : Prop :=
  ∃ e w, l.symbols = .value e :: w ∧ ∀ s ∈ reached key l.guards scope,
    asked (e.mark key s).2 ∧ isTypeName (e.mark key s).2.toList = true ∧
      Delimited (spelling key s w)

theorem Line.Shows.of_reached {asked : String → Prop} {guards : List Guard} {s : Scope} {e : Expr}
    {w : List (Symbol Expr)} {type : String} (hs : reached key guards scope = [s])
    (hv : e.eval key s = .ok (.text type)) (ha : asked type) (ht : isTypeName type.toList = true)
    (hw : Delimited (spelling key s w)) :
    (Line.mk guards (.value e :: w)).Shows key scope asked := by
  refine ⟨e, w, rfl, fun s' hs' => ?_⟩
  rw [hs, List.mem_singleton] at hs'
  rw [hs', Expr.mark_of_eval hv]
  exact ⟨ha, ht, hw⟩

theorem Line.Shows.branch {asked : String → Prop} {guards : List Guard} {w : List (Symbol Expr)}
    (h : (Line.mk guards w).Shows key scope asked) (c : Expr) (b : Bool) :
    (Line.mk (guards ++ [.branch c b]) w).Shows key scope asked := by
  obtain ⟨e, v, hw, hshown⟩ := h
  refine ⟨e, v, hw, fun s hs => ?_⟩
  obtain ⟨s', hreached, hbranch⟩ := List.mem_flatMap.mp (reached_append_singleton _ _ _ ▸ hs)
  obtain rfl := eq_of_mem_reached_branch hbranch
  exact hshown s hreached

theorem typesStand {t : Template} {asked : String → Prop} (ht : t.script.types? = some found)
    (hx : t.marked key scope = .ok xs) (hshows : ∀ l ∈ found, l.Shows key scope asked)
    (hall : ∀ type, asked type → ∃ l ∈ found, ∃ s ∈ reached key l.guards scope,
      ∃ e w, l.symbols = .value e :: w ∧ (e.mark key s).2 = type) : TypesStand asked xs := by
  have hmem {m : Mark} {rest : List (Symbol Mark)} (h : .value m :: rest ∈ types xs) :
      asked m.2 ∧ isTypeName m.2.toList = true ∧ Delimited (spelled rest) := by
    obtain ⟨l, hl, hw⟩ := (mem_types_marked ht hx).mp h
    obtain ⟨s, hs, hfill⟩ := List.mem_map.mp hw
    obtain ⟨e, w, he, hshown⟩ := hshows l hl
    rw [he] at hfill
    cases hfill
    exact hshown s hs
  constructor
  · intro type
    constructor
    · intro h
      obtain ⟨l, hl, s, hs, e, w, he, rfl⟩ := hall type h
      refine ⟨e.mark key s, fill key s w, (mem_types_marked ht hx).mpr ⟨l, hl, ?_⟩, rfl⟩
      refine List.mem_map.mpr ⟨s, hs, ?_⟩
      rw [he]
      rfl
    · rintro ⟨m, rest, h, rfl⟩
      exact (hmem h).1
  · intro m rest h
    exact Name.stands (hmem h).2.1 (hmem h).2.2

end Template

namespace Provider

open Template (Expr Symbol Line)
open Template.Symbol (ofText)

def tails : Pattern → List Line
  | .notifier =>
    [⟨guards .notifier, .value (.var "state") :: ofText " build() \x7b"⟩,
      ⟨guards .notifier ++ [.branch (.var "has_state") true],
        .value (.var "state") :: ofText " value) => state = value;"⟩]
  | .asyncNotifier =>
    [⟨guards .asyncNotifier, .value (.var "state") :: ofText "> build() async \x7b"⟩]
  | .future =>
    [⟨[], .value (.var "state") :: (ofText "> " ++ .value (.camel (.var "name")) ::
      ofText "(Ref ref) async \x7b")⟩]
  | .stream =>
    [⟨[], .value (.var "state") :: (ofText "> " ++ .value (.camel (.var "name")) ::
      ofText "(Ref ref) async* \x7b")⟩]
  | .family =>
    [⟨[], .value (.var "state") :: (ofText "> " ++ .value (.camel (.var "name")) ::
      ofText "(Ref ref, String id) async \x7b")⟩]

theorem types?_template (p : Pattern) : p.template.body.script.types? = some (tails p) := by
  cases p <;>
  · dsimp only [Pattern.template, notifier, asyncNotifier, future, stream, family, Template.script]
    repeat rw [String.toList_append]
    repeat rw [String.toList_ofList]
    decide +kernel

theorem shows_template (p : Pattern) {key name state : String} {stated : Bool}
    (hstate : isTypeName state.toList = true) : ∀ l ∈ tails p, l.Shows key
      [("name", .text name), ("state", .text state), ("has_state", .bool stated)] (· = state) := by
  let scope : Template.Scope :=
    [("name", .text name), ("state", .text state), ("has_state", .bool stated)]
  let inner : Template.Scope := ("class_name", .text (Name.pascal name)) :: scope
  have hshows {guards : List Template.Guard} {s : Template.Scope} {w : List (Symbol Expr)}
      (hs : Template.reached key guards scope = [s])
      (hv : (Expr.var "state").eval key s = .ok (.text state))
      (hw : Delimited (Template.spelling key s w)) :
      (Line.mk guards (.value (.var "state") :: w)).Shows key scope (· = state) :=
    .of_reached hs hv rfl hstate hw
  have hclass : Template.reached key [.bind "class_name" (.pascal (.var "name"))] scope =
    [inner] := rfl
  cases p with
  | notifier =>
    have hbuild : Delimited " build() \x7b".toList := .name _ (by decide)
    have hvalue : Delimited " value) => state = value;".toList := .name _ (by decide)
    refine List.forall_mem_cons.mpr ⟨hshows hclass rfl ?_, List.forall_mem_singleton.mpr ?_⟩
    · rw [Template.spelling_ofText]
      exact hbuild
    · refine Line.Shows.branch (hshows hclass rfl ?_) _ _
      rw [Template.spelling_ofText]
      exact hvalue
  | asyncNotifier =>
    refine List.forall_mem_singleton.mpr (hshows hclass rfl ?_)
    rw [Template.spelling_ofText]
    exact .bracket _
  | future | stream | family =>
    refine List.forall_mem_singleton.mpr (hshows rfl rfl ?_)
    rw [Template.spelling_append, Template.spelling_ofText]
    exact .bracket _

theorem isTypeName_of_generate {pattern name s : String} {state : Option String}
    (h : generate pattern name state = .ok s) :
    isTypeName (state.getD defaultState).toList = true := by
  obtain ⟨p, -, h⟩ := bind_eq_ok.mp h
  obtain ⟨-, h⟩ := check_bind_eq_ok.mp h
  cases state with
  | none => decide
  | some type =>
    obtain ⟨ht, -⟩ := check_bind_eq_ok.mp h
    exact Name.checkTypeName_eq_ok.mp ht

theorem typesStand (p : Pattern) {key name state : String} {stated : Bool}
    (hstate : isTypeName state.toList = true) {xs : List (Symbol Template.Mark)}
    (hx : p.template.body.marked key
      [("name", .text name), ("state", .text state), ("has_state", .bool stated)] = .ok xs) :
    Template.TypesStand (· = state) xs := by
  let scope : Template.Scope :=
    [("name", .text name), ("state", .text state), ("has_state", .bool stated)]
  have hshows : ∀ l ∈ tails p, l.Shows key scope (· = state) := shows_template p hstate
  refine Template.typesStand (types?_template p) hx hshows ?_
  rintro type rfl
  obtain ⟨l, hl, s, hs⟩ : ∃ l ∈ tails p, ∃ s, s ∈ Template.reached key l.guards scope := by
    cases p <;> exact ⟨_, List.mem_cons_self, _, List.mem_cons_self⟩
  obtain ⟨e, w, he, hw⟩ := hshows l hl
  exact ⟨l, hl, s, hs, e, w, he, (hw s hs).1⟩

end Provider

namespace Field

theorem isTypeName_shownType {f : Field} (hf : Name.Typed f.name f.type) :
    isTypeName f.shownType.toList = true := by
  rw [shownType]
  split
  · rw [String.toList_append]
    exact Name.isTypeName_append_mark hf.type
  · exact hf.type

end Field

namespace Model

open Template (Expr Symbol Line)

def tails : List Line :=
  [⟨guards ++ [.each "field" (.var "fields")],
    [.value (.member (.var "field") "dart_type"), .char ' ',
      .value (.member (.var "field") "name"), .char ',']⟩]

theorem types?_template : template.body.script.types? = some tails := by
  dsimp only [template, Template.script]
  repeat rw [String.toList_ofList]
  decide +kernel

theorem typesStand {name key : String} {fs : List Field}
    (hf : ∀ f ∈ fs, Name.Typed f.name f.type) {xs : List (Symbol Template.Mark)}
    (hx : template.body.marked key
      [("name", .text name), ("fields", .list (fs.map Field.value))] = .ok xs) :
    Template.TypesStand (fun type => ∃ f ∈ fs, f.shownType = type) xs := by
  let scope : Template.Scope := [("name", .text name), ("fields", .list (fs.map Field.value))]
  let inner : Template.Scope := ("file_name", .text (Name.snake name)) ::
    ("class_name", .text (Name.pascal name)) :: scope
  have hguards : Template.reached key guards scope = [inner] := rfl
  have hreached : Template.reached key (guards ++ [.each "field" (.var "fields")]) scope =
      fs.map fun f => ("field", f.value) :: inner :=
    Template.reached_each hguards rfl
  have htype (f : Field) : (Expr.member (.var "field") "dart_type").mark key
      (("field", f.value) :: inner) = (.member (.var "field") "dart_type", f.shownType) :=
    Expr.mark_of_eval rfl
  have hname (f : Field) : (Expr.member (.var "field") "name").mark key
      (("field", f.value) :: inner) = (.member (.var "field") "name", f.name) :=
    Expr.mark_of_eval rfl
  refine Template.typesStand types?_template hx (List.forall_mem_singleton.mpr ?_) ?_
  · refine ⟨_, _, rfl, ?_⟩
    rw [hreached, List.forall_mem_map]
    intro f hm
    obtain ⟨c, t, heq, hc, -⟩ := Name.isIdentifier_iff.mp (hf f hm).name
    rw [htype]
    refine ⟨⟨f, hm, rfl⟩, Field.isTypeName_shownType (hf f hm), ?_⟩
    rw [Template.spelling_char, Template.spelling_value, hname, heq]
    exact .name _ hc
  · rintro type ⟨f, hm, rfl⟩
    refine ⟨_, List.mem_singleton_self _, ("field", f.value) :: inner, ?_, _, _, rfl, ?_⟩
    · rw [hreached]
      exact List.mem_map_of_mem hm
    · rw [htype]

end Model

namespace Route

open Template (Expr Line Symbol)

def isBracket (c : Char) : Bool := c == '<' || c == '>'

def written : List Line :=
  [⟨[], [.value (.snake (.var "name"))]⟩, ⟨[], [.value (.camel (.var "name"))]⟩,
    ⟨[], [.value (.var "path")]⟩, ⟨[], [.value (.var "route_name")]⟩,
    ⟨[.each "param" (.var "params")], [.value (.member (.var "param") "name")]⟩,
    ⟨[.each "param" (.var "params")], [.value (.member (.var "param") "expression")]⟩,
    ⟨[.branch (.var "params") true], [.value (.var "screen_name")]⟩,
    ⟨[.branch (.var "params") true, .each "param" (.var "params")],
      [.value (.member (.var "param") "name")]⟩,
    ⟨[.branch (.var "params") false], [.value (.var "screen_name")]⟩]

theorem writers?_template : template.body.script.writers? isBracket = some written := by
  dsimp only [template, Template.script]
  repeat rw [String.toList_ofList]
  decide +kernel

theorem isBracket_of_isRouteChar {c : Char} (h : Name.isRouteChar c = true) :
    isBracket c = false := by
  by_contra hc
  rw [Bool.not_eq_false, isBracket, Bool.or_eq_true, beq_iff_eq, beq_iff_eq] at hc
  rcases hc with rfl | rfl <;> exact absurd h (by decide)

theorem isBracket_of_isIdentifier {s : String} (h : isIdentifier s.toList = true) :
    ∀ c ∈ s.toList, isBracket c = false := fun c hc =>
  isBracket_of_isRouteChar (closed_isRouteChar.word c (Name.isWordChar_of_mem h hc))

theorem Param.isBracket_expression {p : Param} (hp : isIdentifier p.name.toList = true) :
    ∀ c ∈ p.expression.toList, isBracket c = false := by
  have hname : ∀ c ∈ p.name.toList, isBracket c = false := isBracket_of_isIdentifier hp
  have hhead : ∀ c ∈ "state.pathParameters['".toList, isBracket c = false :=
    Template.forall_of_any (by decide)
  have htail : ∀ c ∈ "']!".toList, isBracket c = false :=
    Template.forall_of_any (by decide)
  have hparse : ∀ c ∈ ".parse(".toList, isBracket c = false :=
    Template.forall_of_any (by decide)
  have hread : ∀ type ∈ readTypes, ∀ c ∈ type.toList, isBracket c = false := by
    have hall : ∀ type ∈ readTypes, type.toList.any isBracket = false := by decide
    exact fun type hm => Template.forall_of_any (hall type hm)
  have hclose : ∀ c ∈ ")".toList, isBracket c = false :=
    Template.forall_of_any (by decide)
  have hraw : ∀ c ∈ ("state.pathParameters['" ++ p.name ++ "']!").toList, isBracket c = false := by
    rw [String.toList_append, String.toList_append, List.forall_mem_append, List.forall_mem_append]
    exact ⟨⟨hhead, hname⟩, htail⟩
  rw [expression]
  split
  · rename_i ht
    rw [String.toList_append, String.toList_append, String.toList_append, List.forall_mem_append,
      List.forall_mem_append, List.forall_mem_append]
    exact ⟨⟨⟨hread _ (List.contains_iff_mem.mp ht), hparse⟩, hraw⟩, hclose⟩
  · exact hraw

/-- No bracket is written in the text of a route. -/
theorem isBracket_plain {name key path : String} {ps : List Param}
    (h : isIdentifier name.toList = true) (hpath : Name.isRoutePath path.toList = true)
    (hps : ∀ p ∈ ps, isIdentifier p.name.toList = true) {xs : List (Symbol Template.Mark)}
    (hx : template.body.marked key
      [("name", .text name), ("route_name", .text (Name.kebab name)), ("path", .text path),
        ("params", .list (ps.map Param.value)),
        ("screen_name", .text (Name.pascal name ++ "Screen"))] = .ok xs) :
    ∀ c ∈ (Template.plain xs).toList, isBracket c = false := by
  let scope : Template.Scope := [("name", .text name), ("route_name", .text (Name.kebab name)),
    ("path", .text path), ("params", .list (ps.map Param.value)),
    ("screen_name", .text (Name.pascal name ++ "Screen"))]
  have htop : Template.reached key [] scope = [scope] := rfl
  have hparams : (Expr.var "params").eval key scope = .ok (.list (ps.map Param.value)) := rfl
  have hrespelled (f : Filter) : ∀ c ∈ (f.apply name).toList, isBracket c = false := fun c hc =>
    isBracket_of_isRouteChar <| closed_isRouteChar.apply (fun _ => by decide)
      (fun c hc => closed_isRouteChar.word c (Name.isWordChar_of_mem h hc)) c hc
  have hscreen : ∀ c ∈ (Name.pascal name ++ "Screen").toList, isBracket c = false := by
    rw [String.toList_append, List.forall_mem_append]
    exact ⟨hrespelled .pascal, Template.forall_of_any (by decide)⟩
  have hpath : ∀ c ∈ path.toList, isBracket c = false := fun c hc =>
    isBracket_of_isRouteChar (Name.isRouteChar_of_mem hpath hc)
  have hshown : (Line.mk [] [.value (.var "screen_name")]).Avoids isBracket key scope :=
    .value htop rfl hscreen
  have hlisted : (Line.mk [.each "param" (.var "params")]
      [.value (.member (.var "param") "name")]).Avoids isBracket key scope :=
    .each htop hparams (fun _ => rfl) fun p hp => isBracket_of_isIdentifier (hps p hp)
  have hread : (Line.mk [.each "param" (.var "params")]
      [.value (.member (.var "param") "expression")]).Avoids isBracket key scope :=
    .each htop hparams (fun _ => rfl) fun p hp => p.isBracket_expression (hps p hp)
  refine Template.forall_plain writers?_template hx rfl ?_
  simp only [written, List.forall_mem_cons]
  exact ⟨.value htop rfl (hrespelled .snake), .value htop rfl (hrespelled .camel),
    .value htop rfl hpath, .value htop rfl (hrespelled .kebab), hlisted, hread,
    hshown.branch _ _, hlisted.branch _ _, hshown.branch _ _, by simp⟩

end Route

namespace Template.Request

/-- The types that are asked for, as they are written. -/
inductive Asks : Request → String → Prop
  | state {pattern name : String} {state : Option String} :
      Asks (.provider pattern name state) (state.getD Provider.defaultState)
  | field {name : String} {line : Option String} {fs : List Field} {f : Field} :
      Field.parse (line.getD "") = .ok fs → f ∈ fs → Asks (.model name line) f.shownType

/-- Whether a request is for a text that its types are written in. -/
inductive IsTyped : Request → Prop
  | provider {pattern name : String} {state : Option String} :
      IsTyped (.provider pattern name state)
  | model {name : String} {line : Option String} : IsTyped (.model name line)

inductive IsRoute : Request → Prop
  | route {name : String} {given listed : Option String} : IsRoute (.route name given listed)

theorem asks_provider {pattern name type : String} {state : Option String} :
    Asks (.provider pattern name state) type ↔ type = state.getD Provider.defaultState := by
  constructor
  · rintro ⟨⟩
    rfl
  · rintro rfl
    exact .state

theorem asks_model {name type : String} {line : Option String} {fs : List Field}
    (h : Field.parse (line.getD "") = .ok fs) :
    Asks (.model name line) type ↔ ∃ f ∈ fs, f.shownType = type := by
  constructor
  · rintro ⟨⟩
    rename_i gs f hf hgs
    cases h.symm.trans hgs
    exact ⟨f, hf, rfl⟩
  · rintro ⟨f, hf, rfl⟩
    exact .field h hf

/-- The types in a generated text are the asked ones, and each stands in front of what ends it. -/
theorem exists_typesStand {q : Request} {s : String} (h : q.text = .ok s) (hq : q.IsTyped) :
    ∃ p scope xs, q.Fills p scope ∧ p.body.marked p.key scope = .ok xs ∧ plain xs = s ∧
      TypesStand q.Asks xs := by
  have ht : ¬ q.IsTable := by
    rintro ⟨⟩
    cases hq
  obtain ⟨p, scope, xs, hfills, hx, hs⟩ := exists_marked h ht
  refine ⟨p, scope, xs, hfills, hx, hs, ?_⟩
  cases hq with
  | provider =>
    cases hfills with
    | provider p hn =>
      have hstand := Provider.typesStand p (Provider.isTypeName_of_generate h) hx
      exact ⟨fun type => asks_provider.trans (hstand.asked_iff type), hstand.stands⟩
  | model =>
    cases hfills with
    | model hn hfs =>
      have hstand := Model.typesStand (fun f hf => Field.typed_of_parse hfs hf) hx
      exact ⟨fun type => (asks_model hfs).trans (hstand.asked_iff type), hstand.stands⟩

theorem isBracket_of_route {q : Request} {s : String} (h : q.text = .ok s) (hq : q.IsRoute) :
    ∀ c ∈ s.toList, Route.isBracket c = false := by
  have ht : ¬ q.IsTable := by
    rintro ⟨⟩
    cases hq
  obtain ⟨p, scope, xs, hfills, hx, rfl⟩ := exists_marked h ht
  cases hq
  cases hfills with
  | route hn hpath hps =>
    obtain ⟨hc, hpath⟩ := check_bind_eq_ok.mp hpath
    cases hpath
    exact Route.isBracket_plain hn (Name.checkRoutePath_eq_ok.mp hc)
      (fun p hp => (Route.typed_of_params hps hp).name) hx

/-- Accepted types have as many brackets of one kind as of the other. In front of the end of a
bracket or a name one leaves the bracket around it alone if it is nested, and only then, and it is
read as one type if it is one by itself. Each type in a generated text stands so, but for routes,
which write no type with brackets. -/
theorem types_stand_iff_nested (role : String) (q : Request) (s : String) :
    (∀ type after, Name.checkTypeName type role = .ok () → Delimited after →
      Stands type.toList after) ∧
    (q.text = .ok s →
      (q.IsTyped → ∃ p scope xs, q.Fills p scope ∧ p.body.marked p.key scope = .ok xs ∧
        plain xs = s ∧ TypesStand q.Asks xs) ∧
      (q.IsRoute → ∀ c ∈ s.toList, Route.isBracket c = false)) := by
  constructor
  · intro type after h hd
    exact Name.stands (Name.checkTypeName_eq_ok.mp h) hd
  · intro h
    exact ⟨exists_typesStand h, isBracket_of_route h⟩

def members : String := "Map<String, List<User>>?"

def membersProvider : Request := .provider "future" "members" (some members)

def membersRoute : Request := .route "members" (some "/members/:all") (some "all:List<int>")

theorem types_stand_iff_nested_members :
    Name.checkTypeName members "state type" = .ok () ∧ Delimited "> members".toList ∧
    Stands members.toList "> members".toList ∧
    (∃ s p scope xs, membersProvider.text = .ok s ∧ membersProvider.Fills p scope ∧
      p.body.marked p.key scope = .ok xs ∧ plain xs = s ∧
      ∃ m rest, .value m :: rest ∈ types xs ∧ m.2 = members ∧
        Name.closing 0 (members.toList ++ spelled rest) =
          (Name.closing 0 (spelled rest)).map (· + members.toList.length) ∧
        Name.afterType (members.toList ++ spelled rest) = some (Name.unblanked (spelled rest))) ∧
    ∃ s, membersRoute.text = .ok s ∧ ∀ c ∈ s.toList, Route.isBracket c = false := by
  have hcheck : Name.checkTypeName members "state type" = .ok () := by decide
  have hdelimited : Delimited "> members".toList := .bracket _
  have hprovider : membersProvider.text.toOption.isSome = true := by decide +kernel
  have hroute : membersRoute.text.toOption.isSome = true := by decide +kernel
  obtain ⟨s, hs⟩ := Option.isSome_iff_exists.mp hprovider
  obtain ⟨t, ht⟩ := Option.isSome_iff_exists.mp hroute
  rw [toOption_eq_some] at hs ht
  obtain ⟨hstands, hwritten⟩ := types_stand_iff_nested "state type" membersProvider s
  obtain ⟨p, scope, xs, hq, hx, hplain, htypes⟩ := (hwritten hs).1 .provider
  obtain ⟨m, rest, hm, htype⟩ := (htypes.asked_iff members).mp .state
  have hread : Name.afterType members.toList = some [] := by decide
  have hstand := htypes.stands m rest hm
  rw [htype] at hstand
  refine ⟨hcheck, hdelimited, hstands _ _ hcheck hdelimited,
    ⟨s, p, scope, xs, hs, hq, hx, hplain, m, rest, hm, htype, ?_, ?_⟩, t, ht, ?_⟩
  · exact hstand.closing_iff.mpr (hstand.nested_of_read hread)
  · exact hstand.read_iff.mpr hread
  · exact ((types_stand_iff_nested "parameter type" membersRoute t).2 ht).2 .route

def unnestedProvider : Request := .provider "future" "first" (some "A>B<")

/-- An accepted type that closes the bracket that is around it in the text of a provider. -/
theorem type_closes_bracket : isTypeName "A>B<".toList = true ∧ ¬ Name.Nested "A>B<".toList ∧
    ∃ s p scope xs, unnestedProvider.text = .ok s ∧ unnestedProvider.Fills p scope ∧
      p.body.marked p.key scope = .ok xs ∧ plain xs = s ∧
      ∃ m rest, .value m :: rest ∈ types xs ∧ m.2 = "A>B<" ∧
        Name.closing 0 (m.2.toList ++ spelled rest) = some 1 := by
  have hsome : unnestedProvider.text.toOption.isSome = true := by decide +kernel
  obtain ⟨s, hs⟩ := Option.isSome_iff_exists.mp hsome
  rw [toOption_eq_some] at hs
  obtain ⟨p, scope, xs, hq, hx, hplain, htypes⟩ := exists_typesStand hs .provider
  obtain ⟨m, rest, hm, htype⟩ := (htypes.asked_iff "A>B<").mp .state
  refine ⟨by decide, by decide, s, p, scope, xs, hs, hq, hx, hplain, m, rest, hm, htype, ?_⟩
  rw [htype]
  rfl

end Template.Request

end Scaffold
