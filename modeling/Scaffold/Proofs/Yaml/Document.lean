import Scaffold.Proofs.Yaml.Token
import Scaffold.Yaml.Document

/-! # What can be wrong with a document

A document that has no value is malformed, or it has a scalar that does not say what its tag asks
for, or a number that nothing can be done with, or a mapping that gives itself as its text. Nothing
else stops the reader.
-/

namespace Scaffold.Yaml

open Trouble (OfToken)

namespace Reading

variable {α β : Type} {m : Reading α} {n : Nat}

/-- What may come of a step of the reader: a failure over a malformed document or over what ended
the tokens, or else a reader whose tokens are ended by the same. -/
inductive Kept (r : Reader) : Except Trouble (α × Reader) → Prop
  | ok {a : α} {r' : Reader} (h : r'.trouble = r.trouble) : Kept r (.ok (a, r'))
  | malformed : Kept r (.error .malformed)
  | ended : Kept r (.error r.trouble)

def Keeps (m : Reading α) : Prop := ∀ r, Kept r (m.run r)

theorem keeps_pure (a : α) : Keeps (pure a) := fun _ => .ok rfl

theorem keeps_malformed : Keeps (malformed : Reading α) := fun _ => .malformed

theorem Keeps.bind {f : α → Reading β} (hm : Keeps m) (hf : ∀ a, Keeps (f a)) :
    Keeps (m >>= f) := by
  intro r
  rw [StateT.run_bind]
  have hr := hm r
  generalize m.run r = x at hr
  cases hr with
  | malformed => exact .malformed
  | ended => exact .ended
  | @ok a r' h =>
    have ha := hf a r'
    change Kept r ((f a).run r')
    generalize (f a).run r' = y at ha
    cases ha with
    | ok h' => exact .ok (h'.trans h)
    | malformed => exact .malformed
    | ended => exact h ▸ .ended

theorem Keeps.ite {c : Prop} [Decidable c] {m' : Reading α} (hm : Keeps m) (hm' : Keeps m') :
    Keeps (if c then m else m') := by
  split
  · exact hm
  · exact hm'

theorem Keeps.optional {c : Prop} [Decidable c] {m : Reading PUnit} {f : PUnit → Reading α}
    (hm : Keeps m) (hf : Keeps (f ⟨⟩)) : Keeps (if c then m >>= f else f ⟨⟩) :=
  Keeps.ite (hm.bind fun _ => hf) hf

theorem keeps_get : Keeps (get : Reading Reader) := fun _ => .ok rfl

theorem keeps_modify {f : Reader → Reader} (hf : ∀ r, (f r).trouble = r.trouble) :
    Keeps (modify f : Reading Unit) := fun r => .ok (hf r)

theorem keeps_peek : Keeps peek := by
  intro r
  cases h : r.tokens with
  | nil =>
    have hp : peek.run r = .error r.trouble := by
      simp only [peek, StateT.run_bind, StateT.run_get, pure_bind, h]
      rfl
    rw [hp]
    exact .ended
  | cons t ts =>
    have hp : peek.run r = .ok (t, r) := by
      simp only [peek, StateT.run_bind, StateT.run_get, pure_bind, h]
      rfl
    rw [hp]
    exact .ok rfl

theorem keeps_skip : Keeps skip := keeps_modify fun _ => rfl

theorem keeps_accept (t : Token) : Keeps (accept t) :=
  keeps_peek.bind fun _ => Keeps.ite (keeps_skip.bind fun _ => keeps_pure _) (keeps_pure _)

theorem keeps_expect (t : Token) : Keeps (expect t) :=
  (keeps_accept t).bind fun _ => Keeps.ite keeps_malformed (keeps_pure _)

theorem keeps_nextIs (ts : List Token) : Keeps (nextIs ts) :=
  keeps_peek.bind fun _ => keeps_pure _

theorem keeps_begin (name : Option String) : Keeps (begin name) := by
  intro r
  rw [begin, StateT.run_bind]
  cases name with
  | none => exact .ok rfl
  | some n =>
    change Kept r (StateT.run (if (r.anchors.lookup n).isSome then _ else _ : Reading Nat) r)
    split
    · exact .malformed
    · exact .ok rfl

theorem keeps_store (i : Nat) (node : Node) : Keeps (store i node) := keeps_modify fun _ => rfl

theorem keeps_scalarNode (name : Option String) (tag : Tag) (text : List Char) :
    Keeps (scalarNode name tag text) :=
  (keeps_begin name).bind fun _ => (keeps_store _ _).bind fun _ => keeps_pure _

theorem keeps_emptyNode : Keeps emptyNode := keeps_scalarNode _ _ _

theorem keeps_anchor? : Keeps anchor? := by
  refine keeps_peek.bind fun t => ?_
  split
  · exact keeps_skip.bind fun _ => keeps_pure _
  · exact keeps_pure _

theorem keeps_tag? : Keeps tag? := by
  refine keeps_peek.bind fun t => ?_
  split
  · exact keeps_skip.bind fun _ => keeps_pure _
  · exact keeps_pure _

theorem keeps_tagName (tag : Option String × String) : Keeps (tagName tag) := by
  rw [tagName.eq_def]
  split
  · exact keeps_pure _
  · refine keeps_get.bind fun r => ?_
    split
    · exact keeps_pure _
    · exact keeps_malformed

theorem keeps_mapM_tagName (tag : Option (Option String × String)) :
    Keeps (tag.mapM tagName) := by
  cases tag with
  | none => exact keeps_pure _
  | some tag => exact (keeps_tagName tag).bind fun _ => keeps_pure _

theorem keeps_properties : Keeps properties := by
  refine keeps_anchor?.bind fun name => ?_
  split
  · exact keeps_tag?.bind fun _ => (keeps_mapM_tagName _).bind fun _ => keeps_pure _
  · refine keeps_tag?.bind fun _ => ?_
    refine Keeps.ite ?_ ?_
    · exact keeps_anchor?.bind fun _ => (keeps_mapM_tagName _).bind fun _ => keeps_pure _
    · exact (keeps_pure _).bind fun _ => (keeps_mapM_tagName _).bind fun _ => keeps_pure _

/-- What the reader of nodes and of their parts keeps, as far as it goes by its fuel. -/
structure KeepsAll (n : Nat) : Prop where
  node : ∀ block indentless, Keeps (node block indentless n)
  blockPart : ∀ indentless ends, Keeps (blockPart indentless ends n)
  flowPart : ∀ ends, Keeps (flowPart ends n)
  blockItems : Keeps (blockItems n)
  indentlessItems : Keeps (indentlessItems n)
  blockEntries : Keeps (blockEntries n)
  flowValue : ∀ ends, Keeps (flowValue ends n)
  flowItems : ∀ first, Keeps (flowItems first n)
  flowEntries : ∀ first, Keeps (flowEntries first n)

theorem keeps_bare (name tag : Option String) : Keeps (node.bare name tag) :=
  Keeps.ite (keeps_scalarNode _ _ _) keeps_malformed

theorem keeps_sequence (name tag : Option String) {items : Reading (List Nat)}
    (h : Keeps items) : Keeps (node.sequence name tag items) :=
  (keeps_begin name).bind fun _ => h.bind fun _ => (keeps_store _ _).bind fun _ => keeps_pure _

theorem keeps_mapping (name tag : Option String) {entries : Reading (List (Nat × Nat))}
    (h : Keeps entries) : Keeps (node.mapping name tag entries) :=
  (keeps_begin name).bind fun _ => h.bind fun _ => (keeps_store _ _).bind fun _ => keeps_pure _

theorem KeepsAll.node_succ (ih : KeepsAll n) (block indentless : Bool) :
    Keeps (Reading.node block indentless (n + 1)) := by
  rw [Reading.node]
  refine keeps_peek.bind fun t => ?_
  split
  · refine keeps_skip.bind fun _ => keeps_get.bind fun r => ?_
    split
    · exact keeps_pure _
    · exact keeps_malformed
  · refine keeps_properties.bind fun properties => ?_
    dsimp only
    refine keeps_peek.bind fun t => ?_
    split
    · exact Keeps.ite (keeps_sequence _ _ ih.indentlessItems) (keeps_bare _ _)
    · exact keeps_skip.bind fun _ => keeps_scalarNode _ _ _
    · exact keeps_skip.bind fun _ => keeps_sequence _ _ (ih.flowItems _)
    · exact keeps_skip.bind fun _ => keeps_mapping _ _ (ih.flowEntries _)
    · exact Keeps.ite (keeps_skip.bind fun _ => keeps_sequence _ _ ih.blockItems) (keeps_bare _ _)
    · exact Keeps.ite (keeps_skip.bind fun _ => keeps_mapping _ _ ih.blockEntries) (keeps_bare _ _)
    · exact keeps_bare _ _

theorem KeepsAll.blockPart_succ (ih : KeepsAll n) (indentless : Bool) (ends : List Token) :
    Keeps (Reading.blockPart indentless ends (n + 1)) := by
  rw [Reading.blockPart]
  exact (keeps_nextIs ends).bind fun _ => Keeps.ite keeps_emptyNode (ih.node _ _)

theorem KeepsAll.flowPart_succ (ih : KeepsAll n) (ends : List Token) :
    Keeps (Reading.flowPart ends (n + 1)) := by
  rw [Reading.flowPart]
  exact (keeps_nextIs ends).bind fun _ => Keeps.ite keeps_emptyNode (ih.node _ _)

theorem KeepsAll.blockItems_succ (ih : KeepsAll n) : Keeps (Reading.blockItems (n + 1)) := by
  rw [Reading.blockItems]
  refine (keeps_accept _).bind fun _ => Keeps.ite ?_ ?_
  · exact (ih.blockPart _ _).bind fun _ => ih.blockItems.bind fun _ => keeps_pure _
  · exact (keeps_expect _).bind fun _ => keeps_pure _

theorem KeepsAll.indentlessItems_succ (ih : KeepsAll n) :
    Keeps (Reading.indentlessItems (n + 1)) := by
  rw [Reading.indentlessItems]
  refine (keeps_accept _).bind fun _ => Keeps.ite ?_ (keeps_pure _)
  exact (ih.blockPart _ _).bind fun _ => ih.indentlessItems.bind fun _ => keeps_pure _

theorem KeepsAll.blockEntries_succ (ih : KeepsAll n) : Keeps (Reading.blockEntries (n + 1)) := by
  have hmore (k v : Nat) : Keeps (do return (k, v) :: (← Reading.blockEntries n)) :=
    ih.blockEntries.bind fun _ => keeps_pure _
  rw [Reading.blockEntries]
  refine (keeps_accept _).bind fun _ => Keeps.ite ?_ ?_
  · refine (ih.blockPart _ _).bind fun _ => (keeps_accept _).bind fun _ => Keeps.ite ?_ ?_
    · exact (ih.blockPart _ _).bind fun _ => hmore _ _
    · exact keeps_emptyNode.bind fun _ => hmore _ _
  · exact (keeps_expect _).bind fun _ => keeps_pure _

theorem KeepsAll.flowValue_succ (ih : KeepsAll n) (ends : List Token) :
    Keeps (Reading.flowValue ends (n + 1)) := by
  rw [Reading.flowValue]
  exact (keeps_accept _).bind fun _ => Keeps.ite (ih.flowPart _) keeps_emptyNode

theorem KeepsAll.flowItems_succ (ih : KeepsAll n) (first : Bool) :
    Keeps (Reading.flowItems first (n + 1)) := by
  have hmore (i : Nat) : Keeps (do return i :: (← Reading.flowItems false n)) :=
    (ih.flowItems _).bind fun _ => keeps_pure _
  rw [Reading.flowItems]
  refine (keeps_accept _).bind fun _ => Keeps.ite (keeps_pure _) ?_
  refine Keeps.optional (keeps_expect _) ((keeps_accept _).bind fun _ => Keeps.ite ?_ ?_)
  · exact (keeps_begin _).bind fun _ => (ih.flowPart _).bind fun _ => (ih.flowValue _).bind fun _ =>
      (keeps_store _ _).bind fun _ => hmore _
  · refine (keeps_accept _).bind fun _ => Keeps.ite (keeps_pure _) ?_
    exact (ih.node _ _).bind fun _ => hmore _

theorem KeepsAll.flowEntries_succ (ih : KeepsAll n) (first : Bool) :
    Keeps (Reading.flowEntries first (n + 1)) := by
  have hmore (k v : Nat) : Keeps (do return (k, v) :: (← Reading.flowEntries false n)) :=
    (ih.flowEntries _).bind fun _ => keeps_pure _
  rw [Reading.flowEntries]
  refine (keeps_accept _).bind fun _ => Keeps.ite (keeps_pure _) ?_
  refine Keeps.optional (keeps_expect _) ((keeps_accept _).bind fun _ => Keeps.ite ?_ ?_)
  · exact (ih.flowPart _).bind fun _ => (ih.flowValue _).bind fun _ => hmore _ _
  · refine (keeps_accept _).bind fun _ => Keeps.ite (keeps_pure _) ?_
    exact (ih.node _ _).bind fun _ => keeps_emptyNode.bind fun _ => hmore _ _

theorem keepsAll (n : Nat) : KeepsAll n := by
  induction n with
  | zero =>
    constructor <;> intros <;> exact keeps_malformed
  | succ n ih =>
    exact ⟨ih.node_succ, ih.blockPart_succ, ih.flowPart_succ, ih.blockItems_succ,
      ih.indentlessItems_succ, ih.blockEntries_succ, ih.flowValue_succ, ih.flowItems_succ,
      ih.flowEntries_succ⟩

theorem keeps_directives (version : Bool) (handles : List (String × String)) (n : Nat) :
    Keeps (directives version handles n) := by
  induction n generalizing version handles with
  | zero => exact keeps_malformed
  | succ n ih =>
    rw [directives]
    refine keeps_peek.bind fun t => ?_
    split
    · refine keeps_skip.bind fun _ => ?_
      split
      · exact Keeps.ite keeps_malformed (ih _ _)
      · exact Keeps.ite keeps_malformed (ih _ _)
      · exact ih _ _
    · exact keeps_modify fun _ => rfl

theorem keeps_documentEnds (n : Nat) : Keeps (documentEnds n) := by
  induction n with
  | zero => exact keeps_malformed
  | succ n ih =>
    rw [documentEnds]
    exact (keeps_accept _).bind fun _ => Keeps.ite ih (keeps_pure _)

theorem keeps_close (fuel i : Nat) : Keeps (document.close fuel i) := by
  refine (keeps_documentEnds _).bind fun _ => (keeps_accept _).bind fun _ => ?_
  refine Keeps.ite (keeps_pure _) ?_
  exact (keeps_directives _ _ _).bind fun _ => keeps_malformed

theorem keeps_begun (fuel : Nat) : Keeps (do
    directives false [] fuel
    expect .documentStart
    let i ←
      match ← peek with
      | .directive _ | .documentStart | .documentEnd | .streamEnd => emptyNode
      | _ => node true false fuel
    document.close fuel i) := by
  refine (keeps_directives _ _ _).bind fun _ => (keeps_expect _).bind fun _ => ?_
  refine keeps_peek.bind fun t => ?_
  split
  · exact keeps_emptyNode.bind fun _ => keeps_close _ _
  · exact keeps_emptyNode.bind fun _ => keeps_close _ _
  · exact keeps_emptyNode.bind fun _ => keeps_close _ _
  · exact keeps_emptyNode.bind fun _ => keeps_close _ _
  · exact ((keepsAll fuel).node _ _).bind fun _ => keeps_close _ _

theorem keeps_document (fuel : Nat) : Keeps (document fuel) := by
  refine keeps_peek.bind fun t => ?_
  split
  · exact keeps_pure _
  · exact keeps_begun fuel
  · exact keeps_begun fuel
  · have hhandles : Keeps (modify fun r => { r with handles := defaultHandles }) :=
      keeps_modify fun _ => rfl
    exact hhandles.bind fun _ => ((keepsAll fuel).node _ _).bind fun _ => keeps_close _ _

end Reading

/-- A fault of a document: a scalar does not say what its tag asks for, a number is of no use, or
the text of a mapping leads on and on. -/
inductive Blamed : Fault → Prop
  | calendar (error : CalendarError) : Blamed (.calendar error)
  | notANumber (base : Nat) (text : String) : Blamed (.notANumber base text)
  | notAFloat (text : String) : Blamed (.notAFloat text)
  | emptyNumber : Blamed .emptyNumber
  | notATruth (text : String) : Blamed (.notATruth text)
  | notATimestamp : Blamed .notATimestamp
  | notText (found : String) : Blamed (.notText found)
  | codePoint : Blamed .codePoint
  | hugeCodePoint : Blamed .hugeCodePoint
  | longDigits (digits : Nat) : Blamed (.longDigits digits)
  | hugeFactor : Blamed .hugeFactor
  | exhausted : Blamed .exhausted

inductive Trouble.OfDocument : Trouble → Prop
  | malformed : OfDocument .malformed
  | fault {f : Fault} (h : Blamed f) : OfDocument (.fault f)

open Trouble (OfDocument)

theorem Trouble.OfToken.ofDocument {t : Trouble} (h : OfToken t) : OfDocument t := by
  cases h with
  | malformed => exact .malformed
  | codePoint => exact .fault .codePoint
  | hugeCodePoint => exact .fault .hugeCodePoint
  | longDigits digits => exact .fault (.longDigits digits)

theorem Graph.ofDocument_ofTokens {ts : Tokens} (h : ∀ t ∈ ts.trouble, OfToken t) :
    FailsOnly OfDocument (ofTokens ts) := by
  refine FailsOnly.bind (fun e he => ?_) fun _ _ => failsOnly_ok _
  have hk := Reading.keeps_document (4 * ts.list.length + 8)
    { tokens := ts.list, trouble := ts.trouble.getD .malformed }
  rw [he] at hk
  cases hk with
  | malformed => exact .malformed
  | ended =>
    cases ht : ts.trouble with
    | none => exact .malformed
    | some t => exact (h t ht).ofDocument

namespace Scalar

theorem blamed_wholeIn (base : Nat) (cs : List Char) : FailsOnly Blamed (wholeIn base cs) := by
  rw [wholeIn]
  dsimp only
  split
  · exact failsOnly_error (.longDigits _)
  split
  · exact failsOnly_ok _
  · exact failsOnly_error (.notANumber _ _)

theorem blamed_magnitude (cs : List Char) : FailsOnly Blamed (magnitude cs) := by
  rw [magnitude.eq_def]
  split
  · exact failsOnly_error .emptyNumber
  · exact failsOnly_ok _
  · exact blamed_wholeIn _ _
  · exact blamed_wholeIn _ _
  · exact blamed_wholeIn _ _
  · refine FailsOnly.ite ?_ (blamed_wholeIn _ _)
    exact (FailsOnly.mapM fun cs _ => blamed_wholeIn _ cs).bind fun _ _ => failsOnly_ok _

theorem blamed_int (text : List Char) : FailsOnly Blamed (int text) :=
  (blamed_magnitude _).bind fun _ _ => failsOnly_ok _

theorem blamed_real (cs : List Char) : FailsOnly Blamed (real cs) := by
  rw [real]
  dsimp only
  split
  · exact failsOnly_ok _
  · exact failsOnly_error (.notAFloat _)

theorem blamed_float (text : List Char) : FailsOnly Blamed (float text) := by
  rw [float]
  have hsixties (cs : List Char) : FailsOnly Blamed (realSixties cs) := by
    refine (FailsOnly.mapM fun cs _ => blamed_real cs).bind fun _ _ => FailsOnly.ite ?_ ?_
    · exact FailsOnly.bind (failsOnly_error .hugeFactor) (by rintro _ ⟨⟩)
    · exact failsOnly_ok _
  have hempty : FailsOnly Blamed (.error .emptyNumber : Except Fault PUnit) :=
    failsOnly_error .emptyNumber
  refine FailsOnly.ite (hempty.bind (by rintro _ ⟨⟩)) ?_
  refine FailsOnly.ite ((failsOnly_ok _).bind fun _ _ => failsOnly_ok _) ?_
  refine FailsOnly.ite (failsOnly_ok _) ?_
  refine FailsOnly.ite ((hsixties _).bind fun _ _ => failsOnly_ok _) ?_
  exact (blamed_real _).bind fun _ _ => failsOnly_ok _

theorem blamed_bool (text : List Char) : FailsOnly Blamed (bool text) := by
  rw [bool]
  split
  · exact failsOnly_ok _
  · exact failsOnly_error (.notATruth _)

theorem blamed_timestamp (text : List Char) : FailsOnly Blamed (timestamp text) := by
  rw [timestamp]
  split
  · exact failsOnly_error .notATimestamp
  · rename_i s _
    rintro e he
    obtain ⟨error, -, rfl⟩ := mapError_eq_error.mp he
    exact .calendar error

theorem ofDocument_mapError {α : Type} {x : Except Fault α} (h : FailsOnly Blamed x) :
    FailsOnly OfDocument (x.mapError .fault) := by
  intro e he
  obtain ⟨f, hf, rfl⟩ := mapError_eq_error.mp he
  exact .fault (h f hf)

theorem ofDocument_binary (text : List Char) : FailsOnly OfDocument (binary text) := by
  rw [binary]
  split
  · exact failsOnly_error .malformed
  split
  · exact failsOnly_ok _
  · exact failsOnly_error .malformed

theorem ofDocument_value (tag : Tag) (text : List Char) :
    FailsOnly OfDocument (value tag text) := by
  cases tag with
  | null | str => exact failsOnly_ok _
  | bool => exact ofDocument_mapError (blamed_bool text).map
  | int => exact ofDocument_mapError (blamed_int text).map
  | float => exact ofDocument_mapError (blamed_float text).map
  | binary => exact (ofDocument_binary text).map
  | timestamp => exact ofDocument_mapError (blamed_timestamp text)
  | _ => exact failsOnly_error .malformed

end Scalar

namespace Graph

section Merging

variable {α β : Type} {m : StateT Graph (Except Trouble) α}

def Faultless (m : StateT Graph (Except Trouble) α) : Prop :=
  ∀ g, FailsOnly (· = .malformed) (m.run g)

theorem faultless_pure (a : α) : Faultless (pure a) := fun _ => failsOnly_ok _

theorem faultless_malformed : Faultless (throw .malformed : StateT Graph (Except Trouble) α) :=
  fun _ => failsOnly_error rfl

theorem faultless_get : Faultless (get : StateT Graph (Except Trouble) Graph) :=
  fun _ => failsOnly_ok _

theorem faultless_set (g : Graph) : Faultless (set g : StateT Graph (Except Trouble) PUnit) :=
  fun _ => failsOnly_ok _

theorem Faultless.bind {f : α → StateT Graph (Except Trouble) β} (hm : Faultless m)
    (hf : ∀ a, Faultless (f a)) : Faultless (m >>= f) := by
  intro g
  rw [StateT.run_bind]
  exact (hm g).bind fun r _ => hf r.1 r.2

theorem faultless_mapM {f : α → StateT Graph (Except Trouble) β} (hf : ∀ a, Faultless (f a))
    (as : List α) : Faultless (as.mapM f) := by
  induction as with
  | nil => exact faultless_pure _
  | cons a as ih =>
    rw [List.mapM_cons]
    exact (hf a).bind fun _ => ih.bind fun _ => faultless_pure _

theorem faultless_merge (n i : Nat) (added : List (Nat × Nat)) :
    Faultless (merge i added n) := by
  induction n generalizing i added with
  | zero => exact faultless_malformed
  | succ n ih =>
    have hpart (j : Nat) : Faultless (do
        merge j [] n
        return (← get).entries j) :=
      (ih _ _).bind fun _ => faultless_get.bind fun _ => faultless_pure _
    rw [merge]
    refine faultless_get.bind fun g => ?_
    dsimp only
    split
    · split
      · exact faultless_set _
      refine (faultless_set _).bind fun _ => ?_
      split
      · exact (hpart _).bind fun _ => ih _ _
      · exact (faultless_mapM hpart _).bind fun _ => (faultless_pure _).bind fun _ => ih _ _
      · exact faultless_malformed.bind fun _ => ih _ _
    · exact faultless_malformed

theorem ofDocument_merged (g : Graph) (i : Nat) : FailsOnly OfDocument (Agenda.merged g i) := by
  have hmerge : FailsOnly OfDocument (((merge i [] g.mergeFuel).run g).map (·.2)) := by
    refine FailsOnly.map fun t ht => ?_
    obtain rfl := faultless_merge _ _ _ g t ht
    exact .malformed
  rw [Agenda.merged]
  split
  · exact hmerge
  · exact hmerge
  · exact failsOnly_ok _

end Merging

theorem ofDocument_textOf (g : Graph) (n i : Nat) : FailsOnly OfDocument (g.textOf n i) := by
  induction n generalizing i with
  | zero => exact failsOnly_error (.fault .exhausted)
  | succ n ih =>
    rw [textOf]
    split
    · exact failsOnly_ok _
    · exact failsOnly_error .malformed
    · split
      · exact ih _
      · exact failsOnly_error .malformed

theorem ofDocument_text (g : Graph) (i : Nat) : FailsOnly OfDocument (g.text i) := by
  rw [text]
  split
  · exact failsOnly_ok _
  · exact ofDocument_textOf _ _ _

theorem ofDocument_valueOf (g : Graph) (i : Nat) (text : List Char) :
    FailsOnly OfDocument (g.valueOf i text) := by
  rw [valueOf]
  split
  · exact failsOnly_error (.fault (.notText _))
  · exact Scalar.ofDocument_value _ _

theorem ofDocument_atom (g : Graph) (i : Nat) : FailsOnly OfDocument (g.atom i) := by
  refine FailsOnly.ite ?_ ((ofDocument_text g i).bind fun _ _ => ofDocument_valueOf g i _)
  exact FailsOnly.bind (failsOnly_error .malformed) (by rintro _ ⟨⟩)

theorem ofDocument_readAtom (g : Graph) (i : Nat) : FailsOnly OfDocument (g.readAtom i) := by
  refine (ofDocument_atom g i).bind fun _ _ => ?_
  split
  · exact (ofDocument_text g i).bind fun _ _ => failsOnly_ok _
  · exact failsOnly_ok _

namespace Agenda

theorem ofDocument_meet (a : Agenda) (i : Nat) : FailsOnly OfDocument (a.meet i) :=
  FailsOnly.ite (failsOnly_ok _) (FailsOnly.ite (failsOnly_ok _) (ofDocument_readAtom _ i).map)

theorem ofDocument_visit (a : Agenda) (v : Visit) : FailsOnly OfDocument (a.visit v) := by
  cases v with
  | stop => exact failsOnly_error .malformed
  | node i => exact ofDocument_meet a i
  | key i =>
    refine (ofDocument_meet a i).bind fun a _ => FailsOnly.ite ?_ (failsOnly_ok _)
    exact FailsOnly.bind (failsOnly_error .malformed) (by rintro _ ⟨⟩)

theorem ofDocument_checkAll (n : Nat) (a : Agenda) : FailsOnly OfDocument (checkAll n a) := by
  induction n generalizing a with
  | zero => exact failsOnly_ok _
  | succ n ih =>
    rw [checkAll]
    split
    · exact failsOnly_ok _
    · exact (ofDocument_merged _ _).bind fun _ _ =>
        (FailsOnly.foldlM ofDocument_visit _ _).bind fun a _ => ih a

end Agenda

theorem ofDocument_check (g : Graph) : FailsOnly OfDocument g.check := by
  rw [check]
  split
  · exact failsOnly_ok _
  · exact (Agenda.ofDocument_visit _ _).bind fun _ _ => Agenda.ofDocument_checkAll _ _

end Graph

/-- A document that is not malformed fails only over what it writes. -/
theorem ofDocument_load (standIns : Text.StandIns) (cs : List Char) :
    FailsOnly OfDocument (load standIns cs) :=
  (Graph.ofDocument_ofTokens (Tokens.ofToken_ofChars standIns cs)).bind fun g _ =>
    Graph.ofDocument_check g

end Scaffold.Yaml
