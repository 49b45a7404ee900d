import Scaffold.Model
import Scaffold.Proofs.Template.Skeleton
import Scaffold.Route

/-! # The skeletons of models and routes

A model is written with a list of fields, and a route with a list of parameters. Of a list its
length shows in the text, and of a parameter whether it is read from the text of a path.
-/

namespace Scaffold

open Name (isIdentifier isTypeName isTypeChar)
open Template (IsFree Fields Shapes)

variable {name name' s t : String}

structure Name.Typed (name type : String) : Prop where
  name : isIdentifier name.toList = true
  type : isTypeName type.toList = true

theorem Name.typed_of_checks {type role role' : String} {α : Type} {x : Except Failure α} {y : α}
    (h : (checkIdentifier name role >>= fun _ => checkTypeName type role' >>= fun _ => x) = .ok y) :
    Typed name type ∧ x = .ok y := by
  obtain ⟨hn, h⟩ := check_bind_eq_ok.mp h
  obtain ⟨ht, h⟩ := check_bind_eq_ok.mp h
  exact ⟨⟨checkIdentifier_eq_ok.mp hn, checkTypeName_eq_ok.mp ht⟩, h⟩

theorem forall₂_map_of_mem {α : Type} {R : α → α → Prop} {S : Value → Value → Prop}
    {f : α → Value} {xs ys : List α} (h : List.Forall₂ R xs ys)
    (hs : ∀ x ∈ xs, ∀ y ∈ ys, R x y → S (f x) (f y)) :
    List.Forall₂ S (xs.map f) (ys.map f) := by
  induction h with
  | nil => exact .nil
  | cons hr _ ih =>
    refine .cons (hs _ List.mem_cons_self _ List.mem_cons_self hr) (ih fun x hx y hy => ?_)
    exact hs x (List.mem_cons_of_mem _ hx) y (List.mem_cons_of_mem _ hy)

namespace Field

def fields : Fields := [("name", .free), ("dart_type", .free), ("is_nullable", .flag)]

theorem typed_of_ofSegment {cs : List Char} {f : Field} (h : ofSegment cs = .ok (some f)) :
    Name.Typed f.name f.type := by
  rw [ofSegment] at h
  dsimp only at h
  split at h
  · cases h
  · obtain ⟨ht, h⟩ := Name.typed_of_checks h
    cases h
    exact ht

theorem typed_of_parse {line : String} {fs : List Field} (h : parse line = .ok fs) {f : Field}
    (hf : f ∈ fs) : Name.Typed f.name f.type := by
  obtain ⟨os, hos, h⟩ := bind_eq_ok.mp h
  cases h
  obtain ⟨cs, -, hcs⟩ := exists_of_mem_filterMap hos hf
  exact typed_of_ofSegment hcs

theorem isFree_shownType {f : Field} (hf : Name.Typed f.name f.type) :
    IsFree isTypeChar (.text f.shownType) := by
  rw [shownType]
  split
  · exact (IsFree.of_isTypeName (fun _ h => h) hf.type).append (.text (by decide))
  · exact .of_isTypeName (fun _ h => h) hf.type

theorem relates_value {f g : Field} (hf : Name.Typed f.name f.type)
    (hg : Name.Typed g.name g.type) : fields.Relates isTypeChar f.value g.value := by
  have hname {f : Field} (hf : Name.Typed f.name f.type) : IsFree isTypeChar (.text f.name) :=
    .of_isIdentifier Name.closed_isTypeChar hf.name
  simp only [Fields.Relates, fields, List.forall_mem_cons]
  exact ⟨⟨_, _, rfl, rfl, .free (hname hf) (hname hg)⟩,
    ⟨_, _, rfl, rfl, .free (isFree_shownType hf) (isFree_shownType hg)⟩,
    ⟨_, _, rfl, rfl, .flag _ _⟩, by simp⟩

end Field

namespace Model

def shapes : Shapes := [("name", .leaf .free), ("fields", .records Field.fields)]

theorem exists_of_generate {line : Option String} (h : generate name line = .ok s) :
    ∃ fs, Field.parse (line.getD "") = .ok fs ∧ IsFree isTypeChar (.text name) ∧
      template.render [("name", .text name), ("fields", .list (fs.map Field.value))] = .ok s := by
  obtain ⟨hn, h⟩ := check_bind_eq_ok.mp h
  obtain ⟨fs, hfs, h⟩ := bind_eq_ok.mp h
  dsimp only at h
  split at h
  · cases h
  · exact ⟨fs, hfs, .of_checkIdentifier hn, h⟩

theorem relates_scope {fs fs' : List Field} (hn : IsFree isTypeChar (.text name))
    (hn' : IsFree isTypeChar (.text name')) (hf : ∀ f ∈ fs, Name.Typed f.name f.type)
    (hf' : ∀ f ∈ fs', Name.Typed f.name f.type) (hlen : fs.length = fs'.length) :
    shapes.Relates isTypeChar [("name", .text name), ("fields", .list (fs.map Field.value))]
      [("name", .text name'), ("fields", .list (fs'.map Field.value))] := by
  have hpairs : List.Forall₂ (fun _ _ => True) fs fs' :=
    List.forall₂_iff_get.mpr ⟨hlen, fun _ _ _ => trivial⟩
  have hfields : List.Forall₂ (Field.fields.Relates isTypeChar)
      (fs.map Field.value) (fs'.map Field.value) :=
    forall₂_map_of_mem hpairs fun f hm g hm' _ => Field.relates_value (hf f hm) (hf' g hm')
  exact .cons (.of_free hn hn') (.cons (.records hfields) Shapes.relates_nil)

theorem isShaped : template.body.isShaped isTypeChar shapes = true := by decide +kernel

theorem skeleton_generate {line line' : Option String} {fs fs' : List Field}
    (hl : Field.parse (line.getD "") = .ok fs) (hl' : Field.parse (line'.getD "") = .ok fs')
    (hlen : fs.length = fs'.length) (h : generate name line = .ok s)
    (h' : generate name' line' = .ok t) : skeleton isTypeChar s = skeleton isTypeChar t := by
  obtain ⟨gs, hgs, hn, h⟩ := exists_of_generate h
  obtain ⟨gs', hgs', hn', h'⟩ := exists_of_generate h'
  cases hl.symm.trans hgs
  cases hl'.symm.trans hgs'
  have hs := relates_scope hn hn' (fun _ => Field.typed_of_parse hl)
    (fun _ => Field.typed_of_parse hl') hlen
  exact Packaged.skeleton_render Name.closed_isTypeChar isShaped hs h h'

end Model

namespace Route

/-- The characters of names, types and paths. -/
def isFreeChar (c : Char) : Bool := isTypeChar c || c == '/' || c == ':' || c == '-'

theorem isFreeChar_of_isTypeChar {c : Char} (h : isTypeChar c = true) : isFreeChar c = true := by
  simp [isFreeChar, h]

theorem isFreeChar_of_isRouteChar {c : Char} (h : Name.isRouteChar c = true) :
    isFreeChar c = true := by
  simp only [Name.isRouteChar, Bool.or_eq_true, or_assoc] at h
  rcases h with h | h
  · exact isFreeChar_of_isTypeChar (Name.closed_isTypeChar.word c h)
  · simp only [isFreeChar, Bool.or_eq_true, or_assoc]
    exact Or.inr h

theorem closed_isFreeChar : Name.Closed isFreeChar where
  ascii c h := by
    simp only [isFreeChar, Bool.or_eq_true, beq_iff_eq, or_assoc] at h
    rcases h with h | rfl | rfl | rfl
    · exact Name.closed_isTypeChar.ascii c h
    all_goals decide
  word c h := isFreeChar_of_isTypeChar (Name.closed_isTypeChar.word c h)

theorem closed_isRouteChar : Name.Closed Name.isRouteChar where
  ascii c h := closed_isFreeChar.ascii c (isFreeChar_of_isRouteChar h)
  word c h := by simp [Name.isRouteChar, h]

namespace Param

def fields : Fields := [("name", .free), ("expression", .alike)]

def isRead (p : Param) : Bool := readTypes.contains p.type

theorem typed_of_ofSegment {cs : List Char} {p : Param} (h : ofSegment cs = .ok (some p)) :
    Name.Typed p.name p.type := by
  rw [ofSegment] at h
  dsimp only at h
  split at h
  · cases h
  · obtain ⟨ht, h⟩ := Name.typed_of_checks h
    cases h
    exact ht

theorem typed_of_parse {line : String} {ps : List Param} (h : parse line = .ok ps) {p : Param}
    (hp : p ∈ ps) : Name.Typed p.name p.type := by
  obtain ⟨os, hos, h⟩ := bind_eq_ok.mp h
  cases h
  obtain ⟨cs, -, hcs⟩ := exists_of_mem_filterMap hos hp
  exact typed_of_ofSegment hcs

/-- The expressions of two parameters differ in names and types only, if both are read from the text
of the path or neither is. -/
theorem skeleton_expression {p q : Param} (hp : Name.Typed p.name p.type)
    (hq : Name.Typed q.name q.type) (hr : p.isRead = q.isRead) :
    skeleton isFreeChar p.expression = skeleton isFreeChar q.expression := by
  have hname {p : Param} (hp : Name.Typed p.name p.type) : skeleton isFreeChar p.name = [] := by
    obtain ⟨h⟩ := IsFree.of_isIdentifier closed_isFreeChar hp.name
    exact h
  have htype {p : Param} (hp : Name.Typed p.name p.type) : skeleton isFreeChar p.type = [] := by
    obtain ⟨h⟩ := IsFree.of_isTypeName (fun _ => isFreeChar_of_isTypeChar) hp.type
    exact h
  simp only [isRead] at hr
  simp only [expression, hr]
  split <;> simp only [skeleton_append, hname hp, hname hq, htype hp, htype hq]

theorem relates_value {p q : Param} (hp : Name.Typed p.name p.type)
    (hq : Name.Typed q.name q.type) (hr : p.isRead = q.isRead) :
    fields.Relates isFreeChar p.value q.value := by
  simp only [Fields.Relates, fields, List.forall_mem_cons]
  exact ⟨⟨_, _, rfl, rfl, .free (.of_isIdentifier closed_isFreeChar hp.name)
      (.of_isIdentifier closed_isFreeChar hq.name)⟩,
    ⟨_, _, rfl, rfl, .alike (skeleton_expression hp hq hr)⟩, by simp⟩

end Param

def shapes : Shapes :=
  [("name", .leaf .free), ("route_name", .leaf .free), ("path", .leaf .free),
    ("params", .records Param.fields), ("screen_name", .leaf .free)]

def paramsOf (name : String) (given listed : Option String) : Except Failure (List Param) := do
  params (← path name given) listed

theorem typed_of_params {path : String} {listed : Option String} {ps : List Param}
    (h : params path listed = .ok ps) {p : Param} (hp : p ∈ ps) : Name.Typed p.name p.type := by
  obtain ⟨own, hown, h⟩ := bind_eq_ok.mp h
  split at h
  · exact Param.typed_of_parse h hp
  · cases h
    exact Param.typed_of_parse hown hp

theorem isFree_path {given : Option String} {p : String} (h : path name given = .ok p) :
    IsFree isFreeChar (.text p) := by
  obtain ⟨hc, h⟩ := check_bind_eq_ok.mp h
  cases h
  rw [Name.checkRoutePath_eq_ok] at hc
  exact IsFree.iff_forall.mpr fun c hm => isFreeChar_of_isRouteChar (Name.isRouteChar_of_mem hc hm)

theorem exists_of_generate {given listed : Option String} (h : generate name given listed = .ok s) :
    ∃ p ps, path name given = .ok p ∧ params p listed = .ok ps ∧
      IsFree isFreeChar (.text name) ∧
      template.render [("name", .text name), ("route_name", .text (Name.kebab name)),
        ("path", .text p), ("params", .list (ps.map Param.value)),
        ("screen_name", .text (Name.pascal name ++ "Screen"))] = .ok s := by
  obtain ⟨hn, h⟩ := check_bind_eq_ok.mp h
  obtain ⟨p, hp, h⟩ := bind_eq_ok.mp h
  obtain ⟨ps, hps, h⟩ := bind_eq_ok.mp h
  exact ⟨p, ps, hp, hps,
    .of_isIdentifier closed_isFreeChar (Name.checkIdentifier_eq_ok.mp hn), h⟩

theorem relates_scope {path path' : String} {ps ps' : List Param}
    (hn : IsFree isFreeChar (.text name)) (hn' : IsFree isFreeChar (.text name'))
    (hp : IsFree isFreeChar (.text path)) (hp' : IsFree isFreeChar (.text path'))
    (hps : ∀ p ∈ ps, Name.Typed p.name p.type) (hps' : ∀ p ∈ ps', Name.Typed p.name p.type)
    (hread : List.Forall₂ (fun p q => p.isRead = q.isRead) ps ps') :
    shapes.Relates isFreeChar
      [("name", .text name), ("route_name", .text (Name.kebab name)), ("path", .text path),
        ("params", .list (ps.map Param.value)),
        ("screen_name", .text (Name.pascal name ++ "Screen"))]
      [("name", .text name'), ("route_name", .text (Name.kebab name')), ("path", .text path'),
        ("params", .list (ps'.map Param.value)),
        ("screen_name", .text (Name.pascal name' ++ "Screen"))] := by
  have hparams : List.Forall₂ (Param.fields.Relates isFreeChar)
      (ps.map Param.value) (ps'.map Param.value) :=
    forall₂_map_of_mem hread fun p hp q hq hr => Param.relates_value (hps p hp) (hps' q hq) hr
  have hkebab {n : String} (h : IsFree isFreeChar (.text n)) :
      IsFree isFreeChar (.text (Name.kebab n)) :=
    h.apply (f := .kebab) closed_isFreeChar fun _ => by decide
  have hscreen {n : String} (h : IsFree isFreeChar (.text n)) :
      IsFree isFreeChar (.text (Name.pascal n ++ "Screen")) :=
    (h.apply (f := .pascal) closed_isFreeChar (by simp)).append (.text (by decide))
  exact .cons (.of_free hn hn') (.cons (.of_free (hkebab hn) (hkebab hn'))
    (.cons (.of_free hp hp') (.cons (.records hparams)
      (.cons (.of_free (hscreen hn) (hscreen hn')) Shapes.relates_nil))))

theorem isShaped : template.body.isShaped isFreeChar shapes = true := by decide +kernel

theorem skeleton_generate {given given' listed listed' : Option String} {ps ps' : List Param}
    (hps : paramsOf name given listed = .ok ps) (hps' : paramsOf name' given' listed' = .ok ps')
    (hread : List.Forall₂ (fun p q => p.isRead = q.isRead) ps ps')
    (h : generate name given listed = .ok s) (h' : generate name' given' listed' = .ok t) :
    skeleton isFreeChar s = skeleton isFreeChar t := by
  obtain ⟨p, qs, hp, hqs, hn, h⟩ := exists_of_generate h
  obtain ⟨p', qs', hp', hqs', hn', h'⟩ := exists_of_generate h'
  cases hps.symm.trans (bind_eq_ok.mpr ⟨p, hp, hqs⟩)
  cases hps'.symm.trans (bind_eq_ok.mpr ⟨p', hp', hqs'⟩)
  have hs := relates_scope hn hn' (isFree_path hp) (isFree_path hp')
    (fun _ => typed_of_params hqs) (fun _ => typed_of_params hqs') hread
  exact Packaged.skeleton_render closed_isFreeChar isShaped hs h h'

end Route

end Scaffold
