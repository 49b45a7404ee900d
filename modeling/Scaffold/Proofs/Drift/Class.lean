import Scaffold.Drift.Table
import Scaffold.Proofs.Fallible
import Scaffold.Proofs.Sql.Statement

/-! # The tokens of client-side classes

What the lexer reads in the class that declares a table. A default is one argument of one call, as
long as a number is a decimal one and a string holds nothing that Dart would read in it.
-/

namespace Scaffold

/-- Whether a default that is written as a string holds only characters that stand for themselves
in one. -/
def Column.PlainDefault (c : Column) : Prop :=
  ∀ text, c.literal? = some (.string text) → ∀ x ∈ text.toList, Code.isPlain x = true

theorem Column.NumeralDefault.of_literal? {c : Column} {text : String} (h : c.NumeralDefault)
    (hl : c.literal? = some (.number text)) : Code.isNumeral text.toList = true := by
  obtain ⟨v, hv, he⟩ := Option.map_eq_some_iff.mp hl
  rw [Column.Literal.ofDefault] at he
  split at he
  · cases he
  rename_i hnow
  split at he
  · cases he
  split at he
  · rename_i hk
    cases he
    exact h hk text hv (by simpa using hnow)
  · cases he

namespace Drift

open Code

open Column (Literal)

def dialect : Dialect where
  marks := ['(', ')', '\x7b', '\x7d', ',', ';', '.', '=', '>']
  doubles := false
  numbers := true
  apart := by decide

def callTokens (name : String) (args : List Token) : List Token :=
  .word name :: .mark '(' :: args ++ [.mark ')']

def argumentTokens : Literal → List Token
  | .now => []
  | .truth b => [.word (Literal.truthWord b)]
  | .number text => [.number text]
  | .string text => [.literal text]

def valueTokens : Literal → List Token
  | .now => [.word "currentDateAndTime"]
  | l => .word "const" :: callTokens "Constant" (argumentTokens l)

def methodTokens (name : String) (args : List Token) : List Token :=
  .mark '.' :: callTokens name args

def defaultTokens : Option Literal → List Token
  | some l => methodTokens "withDefault" (valueTokens l)
  | none => []

def getterTokens (c : Column) : List Token :=
  [.word (c.kind.builder ++ "Column"), .word "get", .word (Name.camel c.name), .mark '=',
    .mark '>'] ++ callTokens c.kind.builder [] ++
  (if c.primaryKey && c.autoIncrement then methodTokens "autoIncrement" [] else []) ++
  (if c.nullable then methodTokens "nullable" [] else []) ++
  defaultTokens c.literal? ++ [.mark '(', .mark ')', .mark ';']

def classTokens (name : String) (cs : List Column) : List Token :=
  [.word "class", .word (Name.pascal name), .word "extends", .word "Table", .mark '\x7b'] ++
    cs.flatMap getterTokens ++ [.mark '\x7d']

variable {c : Column} {cs : List Column} {g : Getter} {name : String} {l : Literal}
  {args rest : List Char} {ts us : List Token}

theorem lex_word (h : Name.isIdentifier name.toList = true) :
    lex dialect name.toList = some [.word name] := by
  rw [lex_identifier h, String.ofList_toList]

theorem clause_call (ha : lex dialect args = some us) (hr : lex dialect rest = some ts) :
    Clause dialect ('(' :: (args ++ ')' :: rest)) (.mark '(' :: (us ++ .mark ')' :: ts)) := by
  have hclose : Clause dialect (')' :: rest) (.mark ')' :: ts) :=
    .mark (by decide) (by decide) hr
  exact .mark (by decide) (by decide)
    (lex_append ha hclose.lex_eq hclose.apart)

theorem lex_call (hi : Name.isIdentifier name.toList = true) (ha : lex dialect args = some us)
    (hr : lex dialect rest = some ts) :
    lex dialect (name.toList ++ '(' :: (args ++ ')' :: rest)) =
      some (callTokens name us ++ ts) := by
  have hc := clause_call ha hr
  rw [lex_append (lex_word hi) hc.lex_eq hc.apart, callTokens]
  simp

theorem lex_method (hi : Name.isIdentifier name.toList = true) (ha : lex dialect args = some us)
    (hr : lex dialect rest = some ts) :
    lex dialect ('.' :: (name.toList ++ '(' :: (args ++ ')' :: rest))) =
      some (methodTokens name us ++ ts) := by
  rw [lex_mark (by decide), lex_call hi ha hr]
  rfl

theorem lex_constant (ha : lex dialect args = some us) :
    lex dialect ("const Constant(".toList ++ args ++ [')']) =
      some (.word "const" :: callTokens "Constant" us) := by
  have hi : Name.isIdentifier "Constant".toList = true := by decide
  have hr : lex dialect [] = some [] := rfl
  have hcall := Clause.space (lex_call hi ha hr)
  have hword : lex dialect "const".toList = some [.word "const"] := lex_word (by decide)
  have hall := lex_append hword hcall.lex_eq hcall.apart
  have ht : "const Constant(".toList = "const".toList ++ ' ' :: ("Constant".toList ++ ['(']) := rfl
  rw [ht]
  simpa only [List.append_assoc, List.cons_append, List.nil_append, List.append_nil] using hall

theorem lex_dart_constant {text : String} (ha : lex dialect text.toList = some us) :
    lex dialect ("const Constant(" ++ text ++ ")").toList =
      some (.word "const" :: callTokens "Constant" us) := by
  rw [String.toList_append, String.toList_append]
  exact lex_constant ha

theorem lex_dart (hn : ∀ text, l = .number text → isNumeral text.toList = true)
    (hp : ∀ text, l = .string text → ∀ x ∈ text.toList, isPlain x = true) :
    lex dialect l.dart.toList = some (valueTokens l) := by
  cases l with
  | now => exact lex_word (by decide)
  | truth b =>
    have hb : lex dialect (Literal.truthWord b).toList = some [.word (Literal.truthWord b)] := by
      cases b <;> exact lex_word (by decide)
    exact lex_dart_constant hb
  | number text =>
    have hnumber := lex_numeral (d := dialect) rfl (hn text rfl)
    rw [String.ofList_toList] at hnumber
    exact lex_dart_constant hnumber
  | string text =>
    have hquoted := lex_quoted (d := dialect) fun _ => hp text rfl
    rw [String.ofList_toList] at hquoted
    have hopen : "const Constant('".toList = "const Constant(".toList ++ ['\''] := rfl
    have hend : "')".toList = ['\'', ')'] := rfl
    have hbody : (String.ofList (Text.replace '\'' ['\\', '\''] text.toList)).toList =
        Text.replace '\'' ['\\', '\''] text.toList := String.toList_ofList
    have hdart : (Literal.string text).dart = "const Constant('" ++
        String.ofList (Text.replace '\'' ['\\', '\''] text.toList) ++ "')" := rfl
    rw [hdart, String.toList_append, String.toList_append, hbody, hopen, hend]
    have hall := lex_constant hquoted
    simp only [List.append_assoc, List.cons_append, List.nil_append] at hall ⊢
    exact hall

theorem lex_optional (hi : Name.isIdentifier name.toList = true) (b : Bool)
    (hr : lex dialect rest = some ts) :
    lex dialect ((if b then "." ++ name ++ "()" else "").toList ++ rest) =
      some ((if b then methodTokens name [] else []) ++ ts) := by
  cases b with
  | false => exact hr
  | true =>
    have ha : lex dialect [] = some [] := rfl
    have hm := lex_method hi ha hr
    have hdot : ".".toList = ['.'] := rfl
    have hcall : "()".toList = ['(', ')'] := rfl
    simpa only [if_true, String.toList_append, hdot, hcall, List.append_assoc, List.cons_append,
      List.nil_append] using hm

def defaultText : Option Literal → String
  | some l => ".withDefault(" ++ l.dart ++ ")"
  | none => ""

theorem lex_defaultText {l : Option Literal} (hl : ∀ m ∈ l, lex dialect m.dart.toList =
    some (valueTokens m)) (hr : lex dialect rest = some ts) :
    lex dialect ((defaultText l).toList ++ rest) = some (defaultTokens l ++ ts) := by
  cases l with
  | none => exact hr
  | some m =>
    have hi : Name.isIdentifier "withDefault".toList = true := by decide
    have hm := lex_method hi (hl m rfl) hr
    have hopen : ".withDefault(".toList = '.' :: ("withDefault".toList ++ ['(']) := rfl
    have hclose : ")".toList = [')'] := rfl
    simpa only [defaultText, defaultTokens, String.toList_append, hopen, hclose,
      List.append_assoc, List.cons_append, List.nil_append] using hm

theorem toList_text (g : Getter) : g.text.toList = ' ' :: ' ' :: ((g.builder ++ "Column").toList ++
    (" get".toList ++ (' ' :: g.name.toList ++ (" =>".toList ++ ' ' :: (g.builder.toList ++
      '(' :: ([] ++
        ')' :: ((if g.autoIncrement then "." ++ "autoIncrement" ++ "()" else "").toList ++
          ((if g.nullable then "." ++ "nullable" ++ "()" else "").toList ++
            ((defaultText g.default).toList ++ "();".toList))))))))) := by
  obtain ⟨name, builder, counts, null, default⟩ := g
  have hs : "  ".toList = [' ', ' '] := rfl
  have hg : "Column get ".toList = "Column".toList ++ (" get".toList ++ [' ']) := rfl
  have ha : " => ".toList = " =>".toList ++ [' '] := rfl
  have hc : "()".toList = ['(', ')'] := rfl
  have hi : "." ++ "autoIncrement" ++ "()" = ".autoIncrement()" := by decide
  have hn : "." ++ "nullable" ++ "()" = ".nullable()" := by decide
  rw [hi, hn]
  cases default <;>
    simp only [Getter.text, Getter.calls, defaultText, String.toList_append, hs, hg, ha, hc,
      List.append_assoc, List.cons_append, List.nil_append]

theorem isIdentifier_builder (k : Column.Kind) :
    Name.isIdentifier k.builder.toList = true ∧
      Name.isIdentifier (k.builder ++ "Column").toList = true := by
  cases k with
  | other name =>
    have h : Name.isIdentifier "text".toList = true ∧
        Name.isIdentifier ("text" ++ "Column").toList = true := by decide
    exact h
  | _ => decide

/-- The text of the getter of a column has the tokens of the getter. -/
theorem clause_getter (h : Getter.ofColumn c = .ok g) (hn : c.NumeralDefault)
    (hp : c.PlainDefault) : Clause dialect g.text.toList (getterTokens c) := by
  obtain ⟨name, hname, hg⟩ := bind_eq_ok.mp h
  cases hg
  obtain ⟨-, hi, rfl⟩ := Sql.checkedName_eq_ok.mp hname
  obtain ⟨hbuilder, hcolumn⟩ := isIdentifier_builder c.kind
  have hdefault : ∀ m ∈ c.literal?, lex dialect m.dart.toList = some (valueTokens m) := by
    intro m hm
    refine lex_dart (fun text ht => ?_) fun text ht => hp text (ht ▸ hm)
    exact hn.of_literal? (ht ▸ hm)
  have hnil : lex dialect [] = some [] := rfl
  have hend : lex dialect "();".toList = some [.mark '(', .mark ')', .mark ';'] := rfl
  have hcounts : Name.isIdentifier "autoIncrement".toList = true := by decide
  have hnull : Name.isIdentifier "nullable".toList = true := by decide
  have hcalls := lex_optional hcounts (c.primaryKey && c.autoIncrement)
    (lex_optional hnull c.nullable (lex_defaultText hdefault hend))
  have harrow : Clause dialect " =>".toList [.mark '=', .mark '>'] := ⟨rfl, rfl⟩
  have hget : Clause dialect " get".toList [.word "get"] := ⟨rfl, rfl⟩
  have hbody := harrow.append (Clause.space (lex_call hbuilder hnil hcalls))
  have hrest := hget.append ((Clause.space (lex_word hi)).append hbody)
  have hall := Clause.space (Clause.space (lex_append (lex_word hcolumn)
    hrest.lex_eq hrest.apart)).lex_eq
  rw [toList_text, getterTokens]
  simpa only [List.append_assoc, List.cons_append, List.nil_append] using hall

theorem intercalate_nil {α : Type} (xss : List (List α)) :
    List.intercalate [] xss = xss.flatten := by
  induction xss with
  | nil => rfl
  | cons xs xss ih =>
    rcases eq_or_ne xss [] with rfl | hn
    · simp
    · rw [List.intercalate_cons_of_ne_nil hn, ih]
      simp

theorem Table.toList_text (t : Table) : t.text.toList = "class".toList ++ (' ' :: t.name.toList ++
    (" extends Table \x7b".toList ++ ("\n".toList ++
      Text.join "\n".toList (t.getters.map (·.text.toList) ++ ["\x7d".toList])))) := by
  have hclass : "class ".toList = "class".toList ++ [' '] := rfl
  rw [Table.text, List.cons_append, Text.toList_intercalate, List.map_cons,
    Text.join_cons _ _ (by simp)]
  simp only [String.toList_append, hclass, List.map_append, List.map_map, List.map_cons,
    List.map_nil, List.append_assoc, List.cons_append, List.nil_append, Function.comp_def]

theorem Table.exists_of_ofColumns {t : Table} (h : Table.ofColumns name cs = .ok t) :
    Name.isIdentifier (Name.pascal name).toList = true ∧
      ∃ gs, cs.mapM Getter.ofColumn = .ok gs ∧ t = ⟨Name.pascal name, gs⟩ := by
  obtain ⟨n, hname, hgs⟩ := bind_eq_ok.mp h
  obtain ⟨gs, hg, he⟩ := bind_eq_ok.mp hgs
  cases he
  obtain ⟨-, hi, rfl⟩ := Sql.checkedName_eq_ok.mp hname
  exact ⟨hi, gs, hg, rfl⟩

/-- A class whose numeric defaults are numbers and whose other defaults stand for themselves has the
tokens that its columns ask for, and no others. -/
theorem lex_tableClass {text : String} (hs : tableClass name cs = .ok text)
    (hn : ∀ c ∈ cs, c.NumeralDefault) (hp : ∀ c ∈ cs, c.PlainDefault) :
    lex dialect text.toList = some (classTokens name cs) := by
  obtain ⟨t, ht, rfl⟩ := map_eq_ok.mp hs
  obtain ⟨hi, gs, hg, rfl⟩ := Table.exists_of_ofColumns ht
  have hline : Clause dialect "\n".toList [] := ⟨rfl, rfl⟩
  have hend : Clause dialect "\x7d".toList [.mark '\x7d'] := ⟨rfl, rfl⟩
  have hgetters : List.Forall₂ (Clause dialect) (gs.map (·.text.toList)) (cs.map getterTokens) := by
    rw [List.forall₂_map_left_iff, List.forall₂_map_right_iff]
    exact (forall₂_of_mapM hg fun c hm _ hg => clause_getter hg (hn c hm) (hp c hm)).flip
  have hbody := Text.join_forall₂ .nil (fun _ _ _ _ => Clause.append) hline
    (List.rel_append hgetters (.cons hend .nil))
  rw [intercalate_nil, List.flatten_append, ← List.flatMap_def] at hbody
  have hopen : Clause dialect " extends Table \x7b".toList
      [.word "extends", .word "Table", .mark '\x7b'] := ⟨rfl, rfl⟩
  have hrest := (Clause.space (lex_word hi)).append
    (hopen.append (hline.append hbody))
  have hclass : lex dialect "class".toList = some [.word "class"] := rfl
  rw [Table.toList_text, lex_append hclass hrest.lex_eq hrest.apart, classTokens]
  simp

end Drift

end Scaffold
