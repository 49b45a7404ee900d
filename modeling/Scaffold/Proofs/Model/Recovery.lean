import Scaffold.Proofs.Model.Printing
import Scaffold.Proofs.Template.Identifiers

/-! # Fields in the text of a model

The text of a model has one line for each field, between lines that depend on the name of the model
alone. A type may hold blanks and the word that marks a field as required, but a name holds no
blank, and of the types that are read only those of nullable fields are written with a question mark
at the end. So a line tells its field, and the text of a model its fields.
-/

namespace Scaffold

open Name (isIdentifier)

namespace Field

variable {f : Field} {cs : List Char}

def requiredMark : String := "required "

def line (f : Field) : String :=
  "    " ++ (if f.nullable then "" else requiredMark) ++ f.shownType ++ " " ++ f.name ++ ","

/-- The type in what a line has in front of the name, and whether it is that of a nullable field. -/
def ofMarked? (marked : List Char) : Option (List Char × Bool) :=
  match Text.before? ['?'] marked with
  | some type => some (type, true)
  | none => (Text.after? requiredMark.toList marked).map fun type => (type, false)

/-- The field that a line of a model writes, if it writes one; the name is the last word. -/
def ofLine? (cs : List Char) : Option Field := do
  let indented ← Text.before? [','] cs
  let body ← Text.after? "    ".toList indented
  let marked ← (Text.cut ' ' body.reverse).2
  let (type, nullable) ← ofMarked? marked.reverse
  return ⟨String.ofList (Text.cut ' ' body.reverse).1.reverse, String.ofList type, nullable⟩

def marked (f : Field) : List Char :=
  (if f.nullable then [] else requiredMark.toList) ++ f.shownType.toList

theorem toList_line (f : Field) :
    f.line.toList = "    ".toList ++ (f.marked ++ ' ' :: f.name.toList) ++ [','] := by
  unfold line marked
  split <;> simp

/-- Every line that writes a field ends with a comma. -/
theorem ofLine?_eq_none (h : cs.getLast? ≠ some ',') : ofLine? cs = none := by
  rw [ofLine?, Text.before?_singleton_eq_none h]
  rfl

theorem cut_reverse {name : List Char} (h : isIdentifier name = true) (cs : List Char) :
    Text.cut ' ' (cs ++ ' ' :: name).reverse = (name.reverse, some cs.reverse) := by
  have hblank : ' ' ∉ name.reverse := by
    rw [List.mem_reverse]
    exact Name.not_mem_of_isIdentifier h (by decide)
  rw [List.reverse_append, List.reverse_cons, List.append_assoc, List.singleton_append]
  exact Text.cut_append_cons hblank

theorem Canonical.ofMarked?_marked (h : f.Canonical) :
    ofMarked? f.marked = some (f.type.toList, f.nullable) := by
  unfold ofMarked? marked
  rw [toList_shownType]
  cases hm : f.nullable with
  | true =>
    have hmark : Text.before? ['?'] (f.type.toList ++ ['?']) = some f.type.toList :=
      Text.before?_eq_some.mpr rfl
    simp [hmark]
  | false =>
    -- a type that is not marked as nullable keeps its end behind the mark of a required field
    have hmark : Text.before? ['?'] (requiredMark.toList ++ f.type.toList) = none := by
      rw [Option.eq_none_iff_forall_ne_some]
      intro p hp
      apply h.unmarked hm
      rw [← List.getLast?_append_of_ne_nil requiredMark.toList h.type_ne_nil,
        Text.before?_eq_some.mp hp, List.getLast?_concat]
    simp [hmark, Text.after?_append]

/-- A line tells its field. -/
theorem Canonical.ofLine?_line (h : f.Canonical) : ofLine? f.line.toList = some f := by
  have hindented : Text.before? [','] f.line.toList =
      some ("    ".toList ++ (f.marked ++ ' ' :: f.name.toList)) :=
    Text.before?_eq_some.mpr f.toList_line
  have hcut := cut_reverse h.name f.marked
  have hmarked : (Text.cut ' ' (f.marked ++ ' ' :: f.name.toList).reverse).2 =
      some f.marked.reverse := by rw [hcut]
  have htype : ofMarked? f.marked.reverse.reverse = some (f.type.toList, f.nullable) := by
    rw [List.reverse_reverse]
    exact h.ofMarked?_marked
  refine Option.bind_eq_some_iff.mpr ⟨_, hindented, ?_⟩
  refine Option.bind_eq_some_iff.mpr ⟨_, Text.after?_append _ _, ?_⟩
  refine Option.bind_eq_some_iff.mpr ⟨_, hmarked, Option.bind_eq_some_iff.mpr ⟨_, htype, ?_⟩⟩
  dsimp only
  rw [hcut, List.reverse_reverse, String.ofList_toList, String.ofList_toList]
  rfl

theorem Canonical.line_unbroken (h : f.Canonical) : '\n' ∉ f.line.toList := by
  have hname : '\n' ∉ f.name.toList := Name.not_mem_of_isIdentifier h.name (by decide)
  have htype : '\n' ∉ f.type.toList := by
    intro hm
    exact absurd (Name.isTypeChar_of_mem h.type hm) (by decide)
  have hmark : '\n' ∉ requiredMark.toList := by decide
  rw [toList_line, marked, toList_shownType]
  cases f.nullable <;> simp [hname, htype, hmark]

end Field

namespace Model

open Template (Scope render_text render_emit render_bind render_each)

variable {name : String} {fs : List Field}

def row : Template :=
  .text "    " <|
  .emit (.choose (.member (.var "field") "is_nullable") (.literal "") (.literal "required ")) <|
  .emit (.member (.var "field") "dart_type") <|
  .text " " <|
  .emit (.member (.var "field") "name") <|
  .text ",\n" <|
  .done

def opening (name : String) : List String :=
  let model := Name.pascal name
  let file := Name.snake name
  ["import 'package:freezed_annotation/freezed_annotation.dart';",
    "",
    "part '" ++ file ++ ".freezed.dart';",
    "part '" ++ file ++ ".g.dart';",
    "",
    "@freezed",
    "class " ++ model ++ " with _$" ++ model ++ " \x7b",
    "  const factory " ++ model ++ "(\x7b"]

def closing (name : String) : List String :=
  let model := Name.pascal name
  ["  \x7d) = _" ++ model ++ ";",
    "",
    "  factory " ++ model ++ ".fromJson(Map<String, dynamic> json) =>",
    "      _$" ++ model ++ "FromJson(json);",
    "\x7d"]

def lines (name : String) (fs : List Field) : List String :=
  opening name ++ fs.map Field.line ++ closing name

def written (ls : List String) : String := String.join (ls.map (· ++ "\n"))

theorem written_append (ls ms : List String) : written (ls ++ ms) = written ls ++ written ms := by
  unfold written
  rw [List.map_append, String.join_append]

theorem written_opening (name : String) :
    written (opening name) =
      "import 'package:freezed_annotation/freezed_annotation.dart';\n\npart '" ++
        (Name.snake name ++ (".freezed.dart';\npart '" ++ (Name.snake name ++
          (".g.dart';\n\n@freezed\nclass " ++ (Name.pascal name ++ (" with _$" ++
            (Name.pascal name ++ (" \x7b\n  const factory " ++
              (Name.pascal name ++ "(\x7b\n"))))))))) := by
  rw [← String.toList_inj]
  simp [written, opening, String.join_cons]

theorem written_closing (name : String) :
    written (closing name) = "  \x7d) = _" ++ (Name.pascal name ++ (";\n\n  factory " ++
      (Name.pascal name ++ (".fromJson(Map<String, dynamic> json) =>\n      _$" ++
        (Name.pascal name ++ ("FromJson(json);\n\x7d\n" ++ "")))))) := by
  rw [← String.toList_inj]
  simp [written, closing, String.join_cons]

theorem render_row (f : Field) (key : String) (scope : Scope) :
    row.render key (("field", f.value) :: scope) = .ok (f.line ++ "\n") := by
  have hline : f.line ++ "\n" = "    " ++ ((if f.nullable then "" else Field.requiredMark) ++
      (f.shownType ++ (" " ++ (f.name ++ (",\n" ++ ""))))) := by
    rw [← String.toList_inj]
    simp [Field.line]
  have hmark : (Template.Expr.choose (.member (.var "field") "is_nullable") (.literal "")
      (.literal "required ")).eval key (("field", f.value) :: scope) =
        .ok (.text (if f.nullable then "" else Field.requiredMark)) := by
    cases f with
    | mk name type nullable => cases nullable <;> rfl
  rw [hline]
  exact render_text <| render_emit hmark <| render_emit rfl <| render_text <| render_emit rfl <|
    render_text rfl

theorem render_template (name : String) (fs : List Field) :
    template.render [("name", .text name), ("fields", .list (fs.map Field.value))] =
      .ok (written (lines name fs)) := by
  have hrows (scope : Scope) : ((fs.map Field.value).mapM fun v =>
      row.render template.key (("field", v) :: scope)) = .ok (fs.map fun f => f.line ++ "\n") := by
    rw [mapM_eq_ok, List.forall₂_map_left_iff, List.forall₂_map_right_iff, List.forall₂_same]
    intro f _
    exact render_row f _ scope
  have hfields : written (fs.map Field.line) = String.join (fs.map fun f => f.line ++ "\n") := by
    rw [written, List.map_map]
    rfl
  rw [lines, written_append, written_append, written_opening, written_closing, hfields]
  simp only [String.append_assoc]
  refine render_bind rfl <| render_bind rfl <| render_text <| render_emit rfl <| render_text <|
    render_emit rfl <| render_text <| render_emit rfl <| render_text <| render_emit rfl <|
    render_text <| render_emit rfl <| render_text <| ?_
  refine render_each rfl rfl (hrows _) ?_
  exact render_text <| render_emit rfl <| render_text <| render_emit rfl <| render_text <|
    render_emit rfl <| render_text rfl

/-! ### Reading the lines -/

theorem split_written {ls : List String} (h : ∀ l ∈ ls, '\n' ∉ l.toList) :
    Text.split '\n' (written ls).toList = ls.map String.toList ++ [[]] := by
  induction ls with
  | nil => rfl
  | cons l ls ih =>
    obtain ⟨hl, hls⟩ := List.forall_mem_cons.mp h
    have hcons : (written (l :: ls)).toList = l.toList ++ '\n' :: (written ls).toList := by
      simp [written, String.join_cons]
    rw [hcons, Text.split_append_cons hl, ih hls]
    rfl

theorem unbroken (hn : isIdentifier name.toList = true) (hf : ∀ f ∈ fs, f.Canonical) :
    ∀ l ∈ lines name fs, '\n' ∉ l.toList := by
  have hrespelled (f : Filter) (hf : f ≠ .kebab) : '\n' ∉ (f.apply name).toList := by
    intro hm
    exact absurd (isWordChar_respelled f hf hn _ hm) (by decide)
  have hmodel : '\n' ∉ (Name.pascal name).toList := hrespelled .pascal (by decide)
  have hfile : '\n' ∉ (Name.snake name).toList := hrespelled .snake (by decide)
  simp only [lines, List.forall_mem_append, List.forall_mem_map]
  refine ⟨⟨?_, fun f hm => (hf f hm).line_unbroken⟩, ?_⟩
  · simp [opening, hmodel, hfile]
  · simp [closing, hmodel]

/-- No line of a model but those of its fields ends with a comma. -/
theorem ofLine?_frame (name : String) :
    ∀ l ∈ opening name ++ closing name, Field.ofLine? l.toList = none := by
  intro l hl
  apply Field.ofLine?_eq_none
  revert l
  simp [opening, closing, List.getLast?_append, List.getLast?_cons]

def fieldsOf (text : String) : List Field :=
  (Text.split '\n' text.toList).filterMap Field.ofLine?

theorem fieldsOf_written (hn : isIdentifier name.toList = true) (hf : ∀ f ∈ fs, f.Canonical) :
    fieldsOf (written (lines name fs)) = fs := by
  have hnone (ls : List String) (h : ∀ l ∈ ls, Field.ofLine? l.toList = none) :
      (ls.map String.toList).filterMap Field.ofLine? = [] := by
    rw [List.filterMap_map, List.filterMap_eq_nil_iff]
    exact h
  have hfields : ((fs.map Field.line).map String.toList).filterMap Field.ofLine? = fs := by
    rw [List.filterMap_map, List.filterMap_map]
    exact (List.filterMap_congr fun f hm => (hf f hm).ofLine?_line).trans List.filterMap_some
  obtain ⟨hopening, hclosing⟩ := List.forall_mem_append.mp (ofLine?_frame name)
  have hlast : [[]].filterMap Field.ofLine? = [] := rfl
  unfold fieldsOf
  rw [split_written (unbroken hn hf), lines, List.map_append, List.map_append,
    List.filterMap_append, List.filterMap_append, List.filterMap_append, hfields,
    hnone _ hopening, hnone _ hclosing, hlast]
  simp

theorem exists_lines {line : Option String} {text : String} (h : generate name line = .ok text) :
    ∃ fs, isIdentifier name.toList = true ∧ Field.parse (line.getD "") = .ok fs ∧
      text = written (lines name fs) := by
  obtain ⟨hn, -⟩ := check_bind_eq_ok.mp h
  obtain ⟨fs, hfs, -, hrender⟩ := exists_of_generate h
  rw [render_template] at hrender
  exact ⟨fs, Name.checkIdentifier_eq_ok.mp hn, hfs, (Except.ok.inj hrender).symm⟩

theorem generate_of_parse {line : Option String} (hn : isIdentifier name.toList = true)
    (hfs : Field.parse (line.getD "") = .ok fs) (hne : fs ≠ []) :
    generate name line = .ok (written (lines name fs)) := by
  have hempty : fs.isEmpty = false := by simpa using hne
  simp only [generate, Name.checkIdentifier_eq_ok.mpr hn, hfs, hempty, bind, Except.bind]
  exact render_template name fs

/-- The text of a model has one line for each field that was read, in their order, between lines
that write none, and each of these lines tells its field. So the fields can be read off the text,
and two models with one text have the same fields, also under different names. -/
theorem fields_determined {name name' text text' : String} {line line' : Option String}
    (h : generate name line = .ok text) (h' : generate name' line' = .ok text') :
    (∃ fs, Field.parse (line.getD "") = .ok fs ∧
      Text.split '\n' text.toList =
        (opening name ++ fs.map Field.line ++ closing name).map String.toList ++ [[]] ∧
      (∀ l ∈ opening name ++ closing name, Field.ofLine? l.toList = none) ∧
      (∀ f ∈ fs, Field.ofLine? f.line.toList = some f) ∧ fieldsOf text = fs) ∧
    (text = text' → Field.parse (line.getD "") = Field.parse (line'.getD "")) := by
  obtain ⟨fs, hn, hfs, rfl⟩ := exists_lines h
  obtain ⟨fs', hn', hfs', rfl⟩ := exists_lines h'
  have hf := Field.canonical_of_parse hfs
  have hf' := Field.canonical_of_parse hfs'
  constructor
  · exact ⟨fs, hfs, split_written (unbroken hn hf), ofLine?_frame name,
      fun f hm => (hf f hm).ofLine?_line, fieldsOf_written hn hf⟩
  · intro he
    rw [hfs, hfs', ← fieldsOf_written hn hf, ← fieldsOf_written hn' hf', he]

theorem fields_determined_user : ∃ text,
    generate "User" (some "id:required int,at:required ?,tags:Map<String, int?>??") = .ok text ∧
    generate "User" (some " at,id : required int , at:required?,tags:Map<String, int?>? ?") =
      .ok text ∧
    fieldsOf text = [⟨"id", "required int", false⟩, ⟨"at", "required", true⟩,
      ⟨"tags", "Map<String, int?>?", true⟩] ∧
    Field.parse "id:required int,at:required ?,tags:Map<String, int?>??" =
      Field.parse " at,id : required int , at:required?,tags:Map<String, int?>? ?" := by
  let fs : List Field := [⟨"id", "required int", false⟩, ⟨"at", "required", true⟩,
    ⟨"tags", "Map<String, int?>?", true⟩]
  have hn : isIdentifier "User".toList = true := by decide
  have hfs : Field.parse "id:required int,at:required ?,tags:Map<String, int?>??" = .ok fs := by
    decide +kernel
  have hfs' : Field.parse " at,id : required int , at:required?,tags:Map<String, int?>? ?" =
      .ok fs := by decide +kernel
  have h : generate "User" (some "id:required int,at:required ?,tags:Map<String, int?>??") =
      .ok (written (lines "User" fs)) := generate_of_parse hn hfs (List.cons_ne_nil _ _)
  have h' :
      generate "User" (some " at,id : required int , at:required?,tags:Map<String, int?>? ?") =
        .ok (written (lines "User" fs)) := generate_of_parse hn hfs' (List.cons_ne_nil _ _)
  obtain ⟨⟨gs, hgs, -, -, -, hread⟩, hdetermined⟩ := fields_determined h h'
  cases hfs.symm.trans hgs
  exact ⟨_, h, h', hread, hdetermined rfl⟩

end Model

end Scaffold
