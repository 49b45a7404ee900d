import Scaffold.Proofs.Model.Printing
import Scaffold.Proofs.Route.Runs
import Scaffold.Proofs.Template.Acceptance

/-! # Declared parameters

The parameters of a route are listed in a line, or else stand in its path. Parameters are read back
from the line that writes them. Those of a path are written without types into such a line and read
from it, so a run that starts with a digit is refused there.
-/

namespace Scaffold.Route

open Name (isIdentifier isTypeName isWordChar)

namespace Param

def text (p : Param) : List Char := p.name.toList ++ ':' :: p.type.toList

def print (ps : List Param) : String := String.ofList (Text.join [','] (ps.map text))

/-- A parameter whose written form reads as the parameter again. -/
structure Canonical (p : Param) : Prop where
  name : isIdentifier p.name.toList = true
  type : isTypeName p.type.toList = true
  unbroken : ',' ∉ p.type.toList
  trimmed : p.type.toList.getLast? ≠ some ' '

variable {p : Param} {ps : List Param} {cs w : List Char} {ws : List (List Char)} {line : String}

/-! ### Writing -/

theorem Canonical.ofSegment_text (h : p.Canonical) : ofSegment p.text = .ok (some p) := by
  have hcut : Text.cut ':' p.text = (p.name.toList, some p.type.toList) :=
    Text.cut_append_cons (Name.not_mem_of_isIdentifier h.name (by decide))
  have hname : Text.trim p.name.toList = p.name.toList :=
    Text.trim_of_trimmed (Name.trimmed_of_isIdentifier h.name)
  have htype : Text.trim p.type.toList = p.type.toList :=
    Text.trim_of_trimmed (Name.trimmed_of_isTypeName h.type h.trimmed)
  simp only [ofSegment, hcut, hname, htype, Option.getD_some, String.ofList_toList,
    if_neg (Name.ne_nil_of_isIdentifier h.name), if_neg (Name.ne_nil_of_isTypeName h.type),
    Name.checkIdentifier_eq_ok.mpr h.name, Name.checkTypeName_eq_ok.mpr h.type]
  rfl

theorem Canonical.not_mem_text (h : p.Canonical) : ',' ∉ p.text := by
  have hname : ',' ∉ p.name.toList := Name.not_mem_of_isIdentifier h.name (by decide)
  simp [text, hname, h.unbroken]

theorem parse_join (h : ∀ w ∈ ws, ',' ∉ w) :
    parse (String.ofList (Text.join [','] ws)) = (·.filterMap id) <$> ws.mapM ofSegment := by
  rcases eq_or_ne ws [] with rfl | hn
  · rfl
  · rw [parse, String.toList_ofList, Text.split_join hn h]
    rfl

/-- Canonical parameters are read back from the line that writes them. -/
theorem parse_print (h : ∀ p ∈ ps, p.Canonical) : parse (print ps) = .ok ps := by
  have hparts : (ps.map text).mapM ofSegment = .ok (ps.map some) := by
    rw [mapM_eq_ok, List.forall₂_map_left_iff, List.forall₂_map_right_iff, List.forall₂_same]
    intro p hp
    exact (h p hp).ofSegment_text
  have hcommas : ∀ w ∈ ps.map text, ',' ∉ w :=
    List.forall_mem_map.mpr fun p hp => (h p hp).not_mem_text
  rw [print, parse_join hcommas, map_eq_ok]
  exact ⟨ps.map some, hparts, by simp⟩

/-! ### Reading -/

theorem mem_of_mem_type {c : Char} (h : c ∈ Text.trim ((Text.cut ':' cs).2.getD [])) : c ∈ cs := by
  cases hcut : Text.cut ':' cs with
  | mk name type =>
    rw [hcut] at h
    cases type with
    | none => cases h
    | some type =>
      rw [Text.eq_of_cut_eq_some hcut]
      exact List.mem_append_right _ (List.mem_cons_of_mem _ (Text.mem_of_mem_trim h))

theorem Canonical.of_ofSegment (hc : ',' ∉ cs) (h : ofSegment cs = .ok (some p)) : p.Canonical := by
  obtain ⟨hname, htype⟩ := typed_of_ofSegment h
  rw [ofSegment] at h
  dsimp only at h
  split at h
  · cases h
  obtain ⟨-, h⟩ := Name.typed_of_checks h
  cases h
  refine ⟨hname, htype, ?_, ?_⟩
  · dsimp only
    split
    · decide
    · rw [String.toList_ofList]
      exact fun hm => hc (mem_of_mem_type hm)
  · dsimp only
    split
    · decide
    · rw [String.toList_ofList]
      intro hs
      exact absurd ((Text.trimmed_trim _).2 _ hs) (by decide)

/-- Reading yields canonical parameters. -/
theorem canonical_of_parse (h : parse line = .ok ps) : ∀ p ∈ ps, p.Canonical := by
  intro p hp
  obtain ⟨os, hos, h⟩ := bind_eq_ok.mp h
  cases h
  obtain ⟨cs, hcs, ho⟩ := exists_of_mem_filterMap hos hp
  exact .of_ofSegment (Text.not_mem_of_mem_split hcs) ho

/-! ### Words without types -/

def ofWord (w : List Char) : Param := ⟨String.ofList w, defaultType⟩

def startsWithDigit (w : List Char) : Bool := w.head?.any Char.isDigit

structure IsWord (w : List Char) : Prop where
  ne_nil : w ≠ []
  isWordChar : ∀ c ∈ w, isWordChar c = true

theorem IsWord.not_mem {c : Char} (h : IsWord w) (hc : Name.isWordChar c = false) : c ∉ w := by
  intro hm
  rw [h.isWordChar c hm] at hc
  cases hc

theorem isIdentifier_eq (h : IsWord w) : isIdentifier w = !startsWithDigit w := by
  obtain ⟨c, cs, rfl⟩ := List.exists_cons_of_ne_nil h.ne_nil
  obtain ⟨hc, hcs⟩ := List.forall_mem_cons.mp h.isWordChar
  have hrest : cs.all isWordChar = true := List.all_eq_true.mpr hcs
  rw [isIdentifier, Name.matchesB, Name.isWordStart_eq hc, hrest, Bool.and_true]
  rfl

theorem IsWord.ofSegment_eq (h : IsWord w) :
    ofSegment w = do
      Name.checkIdentifier (String.ofList w) "path parameter"
      return some (ofWord w) := by
  have hcolon : ':' ∉ w := h.not_mem (by decide)
  have hname : Text.trim w = w := Text.trim_of_trimmed (Name.trimmed_of_isWordChar h.isWordChar)
  have hnone : Text.trim [] = [] := rfl
  have htype : Name.checkTypeName defaultType "parameter type" = .ok () :=
    Name.checkTypeName_eq_ok.mpr (by decide)
  simp only [ofSegment, Text.cut_of_not_mem hcolon, hname, hnone, Option.getD_none,
    if_neg h.ne_nil, if_pos, htype]
  rfl

theorem IsWord.ofSegment_eq_ok (h : IsWord w) (hd : startsWithDigit w = false) :
    ofSegment w = .ok (some (ofWord w)) := by
  rw [h.ofSegment_eq, check_bind_eq_ok, Name.checkIdentifier_eq_ok, String.toList_ofList,
    isIdentifier_eq h, hd]
  exact ⟨rfl, rfl⟩

theorem IsWord.ofSegment_eq_error {f : Failure} (h : IsWord w) :
    ofSegment w = .error f ↔ startsWithDigit w = true ∧
      f = Complaint.illFormed (String.ofList w) "path parameter" .identifier := by
  rw [h.ofSegment_eq, check_bind_eq_error, Name.checkIdentifier_eq_error, String.toList_ofList,
    isIdentifier_eq h]
  simp [pure, Except.pure]

def wordLine (ws : List (List Char)) : String := String.ofList (Text.join [','] ws)

theorem parse_wordLine (h : ∀ w ∈ ws, IsWord w) (hd : ws.find? startsWithDigit = none) :
    parse (wordLine ws) = .ok (ws.map ofWord) := by
  have hcommas : ∀ w ∈ ws, ',' ∉ w := fun w hw => (h w hw).not_mem (by decide)
  have hparts : ws.mapM ofSegment = .ok ((ws.map ofWord).map some) := by
    rw [mapM_eq_ok, List.map_map, List.forall₂_map_right_iff, List.forall₂_same]
    intro w hw
    exact (h w hw).ofSegment_eq_ok (Bool.eq_false_iff.mpr (List.find?_eq_none.mp hd w hw))
  rw [wordLine, parse_join hcommas, map_eq_ok]
  exact ⟨_, hparts, by simp⟩

/-- A line of words is refused for the first one that starts with a digit. -/
theorem parse_wordLine_eq_error {f : Failure} (h : ∀ w ∈ ws, IsWord w) :
    parse (wordLine ws) = .error f ↔ ∃ w, ws.find? startsWithDigit = some w ∧
      f = Complaint.illFormed (String.ofList w) "path parameter" .identifier := by
  have hcommas : ∀ w ∈ ws, ',' ∉ w := fun w hw => (h w hw).not_mem (by decide)
  rw [wordLine, parse_join hcommas, map_eq_error, mapM_eq_error]
  simp only [List.find?_eq_some_iff_append]
  constructor
  · rintro ⟨pre, w, post, rfl, hpre, hw⟩
    obtain ⟨hwords, hword⟩ := List.forall_mem_append.mp h
    obtain ⟨hd, rfl⟩ := (hword w List.mem_cons_self).ofSegment_eq_error.mp hw
    refine ⟨w, ⟨hd, pre, post, rfl, fun v hv => ?_⟩, rfl⟩
    obtain ⟨o, ho⟩ := hpre v hv
    rw [Bool.not_eq_true', Bool.eq_false_iff]
    intro hdigit
    rw [(hwords v hv).ofSegment_eq_error.mpr ⟨hdigit, rfl⟩] at ho
    cases ho
  · rintro ⟨w, ⟨hd, pre, post, rfl, hpre⟩, rfl⟩
    obtain ⟨hwords, hword⟩ := List.forall_mem_append.mp h
    refine ⟨pre, w, post, rfl, fun v hv => ?_, ?_⟩
    · exact ⟨_, (hwords v hv).ofSegment_eq_ok (by simpa using hpre v hv)⟩
    · exact (hword w List.mem_cons_self).ofSegment_eq_error.mpr ⟨hd, rfl⟩

end Param

open Param (IsWord startsWithDigit wordLine)
open Template.Request (Fills)

variable {name path : String} {given listed : Option String} {ps : List Param}

theorem isWord_of_isRunAt {path w : List Char} {i : ℕ} (h : IsRunAt path i w) : IsWord w := by
  obtain ⟨pre, post, -, -, hn, hw, -⟩ := h
  exact ⟨hn, hw⟩

def scopeOf (name path : String) (ps : List Param) : Template.Scope :=
  [("name", .text name), ("route_name", .text (Name.kebab name)), ("path", .text path),
    ("params", .list (ps.map Param.value)),
    ("screen_name", .text (Name.pascal name ++ "Screen"))]

theorem path_some (h : Name.isRoutePath path.toList = true) :
    Route.path name (some path) = .ok path := by
  have hne : path ≠ "" := by
    rintro rfl
    cases h
  have hpath : pathOf name (some path) = path := if_neg hne
  rw [path_eq, hpath, Name.checkRoutePath_eq_ok.mpr h]
  rfl

theorem params_of_none (h : Param.parse (listed.getD "") = .ok []) :
    params path listed = Param.parse (wordLine (paramNames path.toList)) := by
  simp only [params, h, wordLine, bind, Except.bind, List.isEmpty_nil, if_pos]

theorem generate_eq (hn : isIdentifier name.toList = true)
    (hp : Route.path name given = .ok path) :
    generate name given listed =
      params path listed >>= fun ps => template.render (scopeOf name path ps) := by
  rw [generate, Name.checkIdentifier_eq_ok.mpr hn, hp]
  rfl

theorem exists_generate (hn : isIdentifier name.toList = true)
    (hp : Route.path name given = .ok path) (hps : params path listed = .ok ps) :
    ∃ text, generate name given listed = .ok text ∧
      template.render (scopeOf name path ps) = .ok text := by
  obtain ⟨text, htext⟩ := (Fills.route hn hp hps).exists_render
  exact ⟨text, by rw [generate_eq hn hp, hps]; exact htext, htext⟩

theorem generate_eq_error {f : Failure} (hn : isIdentifier name.toList = true)
    (hp : Route.path name given = .ok path) :
    generate name given listed = .error f ↔ params path listed = .error f := by
  rw [generate_eq hn hp, bind_eq_error]
  constructor
  · rintro (h | ⟨ps, hps, h⟩)
    · exact h
    · obtain ⟨text, -, htext⟩ := exists_generate hn hp hps
      rw [htext] at h
      cases h
  · exact Or.inl

def isKebabChar (c : Char) : Bool := isWordChar c || c == '-'

theorem closed_isKebabChar : Name.Closed isKebabChar where
  ascii c h := by
    rcases Bool.or_eq_true_iff.mp h with h | h
    · exact Name.lt_of_isWordChar h
    · rw [beq_iff_eq.mp h]
      decide
  word c h := by simp [isKebabChar, h]

theorem not_mem_kebab (h : isIdentifier name.toList = true) :
    ':' ∉ ("/" ++ Name.kebab name).toList := by
  have hkebab : ∀ c ∈ (Name.kebab name).toList, isKebabChar c = true :=
    closed_isKebabChar.apply (f := .kebab) (fun _ => by decide) fun c hc =>
      closed_isKebabChar.word c (Name.isWordChar_of_mem h hc)
  rw [String.toList_append, List.mem_append, not_or]
  exact ⟨by decide, fun hm => absurd (hkebab _ hm) (by decide)⟩

/-- The parameters of a route are those that are declared. A line that writes parameters reads as
them, and other parameters cannot be read. Where none are listed, they are the runs behind the
colons of the path, from left to right, each a text, unless one of these starts with a digit: then
the first such run is refused. A path that is made from the name has none. -/
theorem params_declared :
    (∀ ps : List Param, (∀ p ∈ ps, p.Canonical) → Param.parse (Param.print ps) = .ok ps) ∧
    (∀ line ps, Param.parse line = .ok ps → ∀ p ∈ ps, p.Canonical) ∧
    (∀ name path listed, isIdentifier name.toList = true → Name.isRoutePath path.toList = true →
      Param.parse (listed.getD "") = .ok [] → ∃ runs, Runs path.toList runs ∧
        (runs.find? startsWithDigit = none → ∃ text, generate name (some path) listed = .ok text ∧
          template.render (scopeOf name path (runs.map Param.ofWord)) = .ok text) ∧
        ∀ f, generate name (some path) listed = .error f ↔
          ∃ w, runs.find? startsWithDigit = some w ∧
            f = Complaint.illFormed (String.ofList w) "path parameter" .identifier) ∧
    ∀ name given, isIdentifier name.toList = true → given.getD "" = "" →
      Name.isRoutePath ("/" ++ Name.kebab name).toList = true ∧
      Route.path name given = .ok ("/" ++ Name.kebab name) ∧
      Runs ("/" ++ Name.kebab name).toList [] ∧ params ("/" ++ Name.kebab name) none = .ok [] := by
  refine ⟨fun _ h => Param.parse_print h, fun _ _ h => Param.canonical_of_parse h, ?_, ?_⟩
  · intro name path listed hn hpath hlisted
    have hp : Route.path name (some path) = .ok path := path_some hpath
    have hparams : params path listed = Param.parse (wordLine (paramNames path.toList)) :=
      params_of_none hlisted
    have hruns := runs_paramNames path.toList
    have hwords : ∀ w ∈ paramNames path.toList, IsWord w := by
      intro w hw
      obtain ⟨i, hi⟩ := hruns.of_mem hw
      exact isWord_of_isRunAt hi
    refine ⟨paramNames path.toList, hruns, fun hd => ?_, fun f => ?_⟩
    · exact exists_generate hn hp (hparams.trans (Param.parse_wordLine hwords hd))
    · rw [generate_eq_error hn hp, hparams, Param.parse_wordLine_eq_error hwords]
  · intro name given hn hgiven
    have hnames := paramNames_of_not_mem (not_mem_kebab hn)
    have hruns := runs_paramNames ("/" ++ Name.kebab name).toList
    have hpath : pathOf name given = "/" ++ Name.kebab name := if_pos hgiven
    refine ⟨isRoutePath_kebab hn, ?_, hnames ▸ hruns, ?_⟩
    · rw [path_eq, hpath, Name.checkRoutePath_eq_ok.mpr (isRoutePath_kebab hn)]
      rfl
    · rw [params_of_none rfl, hnames]
      rfl

theorem params_declared_posts :
    Param.parse "id:Map< int?>,page:int" = .ok [⟨"id", "Map< int?>"⟩, ⟨"page", "int"⟩] ∧
    (∃ text, generate "posts" (some "/a:b/:id::/:id-:p_2-x/:") (some " ,:int") = .ok text ∧
      template.render (scopeOf "posts" "/a:b/:id::/:id-:p_2-x/:"
        [⟨"b", "String"⟩, ⟨"id", "String"⟩, ⟨"id", "String"⟩, ⟨"p_2", "String"⟩]) = .ok text) ∧
    generate "posts" (some "/:id/:2b:3") none =
      .error (Complaint.illFormed "2b" "path parameter" .identifier) ∧
    Route.path "userPosts" none = .ok "/user-posts" ∧ params "/user-posts" none = .ok [] := by
  obtain ⟨hprint, hread, hpath, hmade⟩ := params_declared
  have hruns {path : String} {ws : List (List Char)} (h : paramNames path.toList = ws) :
      Runs path.toList ws := h ▸ runs_paramNames path.toList
  have hn : isIdentifier "posts".toList = true := by decide
  refine ⟨?_, ?_, ?_, ?_⟩
  · refine hprint [⟨"id", "Map< int?>"⟩, ⟨"page", "int"⟩] ?_
    simp only [List.forall_mem_cons]
    exact ⟨⟨by decide, by decide, by decide, by decide⟩,
      ⟨by decide, by decide, by decide, by decide⟩, by simp⟩
  · let path := "/a:b/:id::/:id-:p_2-x/:"
    obtain ⟨runs, h, htext, -⟩ := hpath "posts" path (some " ,:int") hn (by decide) (by decide)
    obtain rfl : runs = [['b'], ['i', 'd'], ['i', 'd'], ['p', '_', '2']] :=
      h.unique (hruns (by decide))
    exact htext (by decide)
  · obtain ⟨runs, h, -, herror⟩ := hpath "posts" "/:id/:2b:3" none hn (by decide) (by decide)
    obtain rfl : runs = [['i', 'd'], ['2', 'b'], ['3']] := h.unique (hruns (by decide))
    exact (herror _).mpr ⟨['2', 'b'], by decide, rfl⟩
  · have hkebab : "/" ++ Name.kebab "userPosts" = "/user-posts" := by decide +kernel
    obtain ⟨-, hp, -, hparams⟩ := hmade "userPosts" none (by decide) rfl
    rw [hkebab] at hp hparams
    exact ⟨hp, hparams⟩

end Scaffold.Route
