import Scaffold.Proofs.Fallible
import Scaffold.Yaml.Token.Stream

/-! # What can be wrong with tokens

A document that cannot be cut into tokens is malformed, but for the numbers that it may write in
one: an escape of a quoted scalar may not be a code point, and a directive may have too many digits.
-/

namespace Scaffold.Yaml

/-- A trouble with a token: it is malformed, or it writes a number that nothing can be done with. -/
inductive Trouble.OfToken : Trouble → Prop
  | malformed : OfToken .malformed
  | codePoint : OfToken (.fault .codePoint)
  | hugeCodePoint : OfToken (.fault .hugeCodePoint)
  | longDigits (digits : Nat) : OfToken (.fault (.longDigits digits))

open Trouble (OfToken)

theorem ofToken_malformed {α : Type} : FailsOnly OfToken (.error .malformed : Except Trouble α) :=
  failsOnly_error .malformed

theorem ofToken_malformed_bind {α β : Type} (f : α → Except Trouble β) :
    FailsOnly OfToken ((.error .malformed : Except Trouble α) >>= f) :=
  ofToken_malformed

namespace Cursor

theorem ofToken_endLine (c : Cursor) : FailsOnly OfToken c.endLine := by
  rw [endLine]
  split
  · exact failsOnly_ok _
  split
  · exact failsOnly_ok _
  · exact ofToken_malformed

theorem ofToken_increment (c : Cursor) : FailsOnly OfToken c.increment := by
  rw [increment]
  split
  · split
    · exact ofToken_malformed
    split <;> exact failsOnly_ok _
  · exact failsOnly_ok _

theorem ofToken_blockHeader (c : Cursor) : FailsOnly OfToken c.blockHeader := by
  have hend (chomping : Chomping) (indent : Option Nat) (c : Cursor) : FailsOnly OfToken
      (if c.endsOr fun d => d == ' ' || isBreak d then do
        return (chomping, indent, ← c.endLine)
      else .error .malformed) := by
    split
    · exact (ofToken_endLine c).bind fun _ _ => failsOnly_ok _
    · exact ofToken_malformed
  rw [blockHeader]
  split
  · exact (ofToken_increment _).bind fun _ _ => (failsOnly_ok _).bind fun _ _ => hend _ _ _
  · refine (ofToken_increment _).bind fun _ _ => ?_
    dsimp only
    split
    · exact (failsOnly_ok _).bind fun _ _ => hend _ _ _
    · exact (failsOnly_ok _).bind fun _ _ => hend _ _ _

theorem ofToken_block (folded : Bool) (parent : Int) (c : Cursor) :
    FailsOnly OfToken (c.block folded parent) :=
  (ofToken_blockHeader _).bind fun _ _ => failsOnly_ok _

theorem ofToken_name (c : Cursor) : FailsOnly OfToken c.name := by
  rw [name]
  dsimp only
  split
  · exact ofToken_malformed
  split
  · exact failsOnly_ok _
  · exact ofToken_malformed

theorem ofToken_escapedBytes (n : Nat) (c : Cursor) : FailsOnly OfToken (c.escapedBytes n) := by
  induction n generalizing c with
  | zero => exact failsOnly_ok _
  | succ n ih =>
    rw [escapedBytes]
    split
    · split
      · exact (ih _).bind fun _ _ => failsOnly_ok _
      · exact ofToken_malformed
    · exact ofToken_malformed
    · exact failsOnly_ok _

theorem ofToken_uriChars (n : Nat) (c : Cursor) : FailsOnly OfToken (c.uriChars n) := by
  induction n generalizing c with
  | zero => exact failsOnly_ok _
  | succ n ih =>
    rw [uriChars]
    split
    · refine (ofToken_escapedBytes _ _).bind fun ⟨bytes, c⟩ _ => ?_
      dsimp only
      split
      · exact ofToken_malformed
      · exact (ih _).bind fun _ _ => failsOnly_ok _
    · split
      · exact (ih _).bind fun _ _ => failsOnly_ok _
      · exact failsOnly_ok _
    · exact failsOnly_ok _

theorem ofToken_uri (c : Cursor) : FailsOnly OfToken c.uri := by
  rw [uri]
  split
  · exact (ofToken_uriChars _ _).bind fun _ _ => failsOnly_ok _
  · exact ofToken_malformed

theorem ofToken_handle (c : Cursor) : FailsOnly OfToken c.handle := by
  rw [handle]
  split
  · dsimp only
    split
    · exact failsOnly_ok _
    split
    · exact failsOnly_ok _
    · exact ofToken_malformed
  · exact ofToken_malformed

theorem ofToken_ending (t : Token) (c : Cursor) : FailsOnly OfToken
    (if c.endsOr isSpaceOrBreak then pure (t, c) else .error .malformed) := by
  split
  · exact failsOnly_ok _
  · exact ofToken_malformed

theorem ofToken_handled (head : String) (c : Cursor) : FailsOnly OfToken (do
    let (suffix, c) ← c.uri
    let (t, c) ← pure (Token.tag (some head) suffix, c)
    if c.endsOr isSpaceOrBreak then pure (t, c) else .error .malformed) :=
  (ofToken_uri c).bind fun _ _ => (failsOnly_ok _).bind fun _ _ => ofToken_ending _ _

theorem ofToken_tag (c : Cursor) : FailsOnly OfToken c.tag := by
  rw [tag]
  split
  · refine (ofToken_uri _).bind fun _ _ => ?_
    dsimp only
    split
    · exact (failsOnly_ok _).bind fun _ _ => ofToken_ending _ _
    · exact ofToken_malformed_bind _
  · split
    · exact (failsOnly_ok _).bind fun _ _ => ofToken_ending _ _
    dsimp only
    split
    · exact (ofToken_handle _).bind fun _ _ => ofToken_handled _ _
    · exact (failsOnly_ok _).bind fun _ _ => ofToken_handled _ _

theorem ofToken_digits (c : Cursor) : FailsOnly OfToken c.digits := by
  rw [digits]
  dsimp only
  split
  · exact ofToken_malformed
  split
  · exact failsOnly_error (.longDigits _)
  · exact failsOnly_ok _

theorem ofToken_directive (c : Cursor) : FailsOnly OfToken c.directive := by
  have hend (d : Directive) (c : Cursor) : FailsOnly OfToken (do return (d, ← c.endLine)) :=
    (ofToken_endLine c).bind fun _ _ => failsOnly_ok _
  rw [directive]
  dsimp only
  split
  · exact ofToken_malformed
  split
  · refine (ofToken_digits _).bind fun _ _ => ?_
    split
    · exact ofToken_malformed_bind _
    refine (ofToken_digits _).bind fun _ _ => ?_
    split
    · exact (failsOnly_ok _).bind fun _ _ => hend _ _
    · exact ofToken_malformed_bind _
  · refine (ofToken_handle _).bind fun _ _ => ?_
    split
    · exact ofToken_malformed_bind _
    refine (ofToken_uri _).bind fun _ _ => ?_
    split
    · exact (failsOnly_ok _).bind fun _ _ => hend _ _
    · exact ofToken_malformed_bind _
  · exact (failsOnly_ok _).bind fun _ _ => hend _ _

theorem ofToken_quotedBreaks (n : Nat) (c : Cursor) : FailsOnly OfToken (c.quotedBreaks n) := by
  induction n generalizing c with
  | zero => exact failsOnly_ok _
  | succ n ih =>
    rw [quotedBreaks]
    split
    · exact ofToken_malformed
    dsimp only
    split
    · exact failsOnly_ok _
    · exact (ih _).bind fun _ _ => failsOnly_ok _

theorem ofToken_quotedSpaces (c : Cursor) : FailsOnly OfToken c.quotedSpaces := by
  rw [quotedSpaces]
  dsimp only
  split
  · split
    · exact ofToken_malformed
    · exact failsOnly_ok _
  · exact (ofToken_quotedBreaks _ _).bind fun _ _ => failsOnly_ok _

theorem ofToken_escape (standIns : Text.StandIns) (c : Cursor) :
    FailsOnly OfToken (c.escape standIns) := by
  rw [escape]
  split
  · exact ofToken_malformed
  split
  · exact failsOnly_ok _
  · split
    · exact ofToken_malformed
    split
    · exact failsOnly_error .hugeCodePoint
    split
    · exact failsOnly_error .codePoint
    · exact failsOnly_ok _
  · split
    · exact ofToken_quotedBreaks _ _
    · exact ofToken_malformed

theorem ofToken_behind {x : Except Trouble (List Char × Cursor)} (h : FailsOnly OfToken x)
    (first : List Char) : FailsOnly OfToken (do
      let (more, last) ← x
      return (first ++ more, last)) := h.bind fun _ _ => failsOnly_ok _

theorem ofToken_quotedFrom (standIns : Text.StandIns) (double : Bool) (n : Nat) (c : Cursor) :
    FailsOnly OfToken (quotedFrom standIns double n c) := by
  induction n generalizing c with
  | zero => exact ofToken_malformed
  | succ n ih =>
    rw [quotedFrom.eq_2]
    dsimp only
    generalize (if double = true then '"' else '\'') = quote
    split
    · exact ofToken_malformed
    split
    · split
      · exact (ih _).bind fun _ _ => failsOnly_ok _
      · exact failsOnly_ok _
    split
    · exact (ofToken_quotedSpaces _).bind fun _ _ => ofToken_behind (ih _) _
    split
    · exact (ofToken_escape _ _).bind fun _ _ => ofToken_behind (ih _) _
    · exact (failsOnly_ok _).bind fun _ _ => ofToken_behind (ih _) _

theorem ofToken_quoted (standIns : Text.StandIns) (double : Bool) (c : Cursor) :
    FailsOnly OfToken (c.quoted standIns double) :=
  ofToken_quotedFrom _ _ _ _

end Cursor

namespace Lexer

theorem ofToken_dropStale (s : Lexer) : FailsOnly OfToken s.dropStale := by
  rw [dropStale]
  split
  · exact ofToken_malformed
  · exact failsOnly_ok _

theorem ofToken_dropKey (s : Lexer) : FailsOnly OfToken s.dropKey := by
  rw [dropKey]
  split
  · exact ofToken_malformed
  · exact failsOnly_ok _

theorem ofToken_saveKey (s : Lexer) : FailsOnly OfToken s.saveKey := by
  rw [saveKey]
  split
  · exact (ofToken_dropKey s).bind fun _ _ => failsOnly_ok _
  · exact failsOnly_ok _

theorem ofToken_finish (s : Lexer) : FailsOnly OfToken s.finish :=
  (ofToken_dropKey _).bind fun _ _ => failsOnly_ok _

theorem ofToken_directive (s : Lexer) : FailsOnly OfToken s.directive :=
  (ofToken_dropKey _).bind fun _ _ =>
    (Cursor.ofToken_directive _).bind fun _ _ => failsOnly_ok _

theorem ofToken_separator (t : Token) (s : Lexer) : FailsOnly OfToken (s.separator t) :=
  (ofToken_dropKey _).bind fun _ _ => failsOnly_ok _

theorem ofToken_openFlow (t : Token) (s : Lexer) : FailsOnly OfToken (s.openFlow t) :=
  (ofToken_saveKey _).bind fun _ _ => failsOnly_ok _

theorem ofToken_closeFlow (t : Token) (s : Lexer) : FailsOnly OfToken (s.closeFlow t) :=
  (ofToken_dropKey _).bind fun _ _ => failsOnly_ok _

theorem ofToken_flowEntry (s : Lexer) : FailsOnly OfToken s.flowEntry :=
  (ofToken_dropKey _).bind fun _ _ => failsOnly_ok _

theorem ofToken_blockEntry (s : Lexer) : FailsOnly OfToken s.blockEntry := by
  rw [blockEntry]
  split
  · exact ofToken_malformed_bind _
  · exact (ofToken_dropKey _).bind fun _ _ => failsOnly_ok _

theorem ofToken_keySign (s : Lexer) : FailsOnly OfToken s.keySign := by
  rw [keySign]
  split
  · exact ofToken_malformed_bind _
  · exact (ofToken_dropKey _).bind fun _ _ => failsOnly_ok _

theorem ofToken_valueSign (s : Lexer) : FailsOnly OfToken s.valueSign := by
  rw [valueSign]
  split
  · exact failsOnly_ok _
  · refine FailsOnly.ite (ofToken_malformed_bind _) ?_
    exact (ofToken_dropKey _).bind fun _ _ => failsOnly_ok _

theorem ofToken_word {read : Cursor → Except Trouble (Token × Cursor)}
    (h : ∀ c, FailsOnly OfToken (read c)) (s : Lexer) : FailsOnly OfToken (s.word read) :=
  (ofToken_saveKey _).bind fun _ _ => (h _).bind fun _ _ => failsOnly_ok _

theorem ofToken_plain (s : Lexer) : FailsOnly OfToken s.plain :=
  (ofToken_saveKey _).bind fun _ _ => failsOnly_ok _

theorem ofToken_blockScalar (folded : Bool) (s : Lexer) :
    FailsOnly OfToken (s.blockScalar folded) :=
  (ofToken_dropKey _).bind fun _ _ =>
    (Cursor.ofToken_block _ _ _).bind fun _ _ => failsOnly_ok _

theorem ofToken_token (s : Lexer) : FailsOnly OfToken s.token := by
  have hname (make : String → Token) (c : Cursor) :
      FailsOnly OfToken (c.name.map fun r => (make r.1, r.2)) :=
    (Cursor.ofToken_name c).map
  have hquoted (double : Bool) (c : Cursor) :
      FailsOnly OfToken (scalar (c.quoted s.standIns double)) :=
    (Cursor.ofToken_quoted _ _ c).map
  rw [token]
  split
  · exact ofToken_finish s
  refine FailsOnly.ite (ofToken_directive s) ?_
  refine FailsOnly.ite (ofToken_separator _ s) (FailsOnly.ite (ofToken_separator _ s) ?_)
  refine FailsOnly.ite (ofToken_openFlow _ s) (FailsOnly.ite (ofToken_openFlow _ s) ?_)
  refine FailsOnly.ite (ofToken_closeFlow _ s) (FailsOnly.ite (ofToken_closeFlow _ s) ?_)
  refine FailsOnly.ite (ofToken_flowEntry s) (FailsOnly.ite (ofToken_blockEntry s) ?_)
  refine FailsOnly.ite (ofToken_keySign s) (FailsOnly.ite (ofToken_valueSign s) ?_)
  refine FailsOnly.ite (ofToken_word (hname _) s) (FailsOnly.ite (ofToken_word (hname _) s) ?_)
  refine FailsOnly.ite (ofToken_word Cursor.ofToken_tag s) ?_
  refine FailsOnly.ite (ofToken_blockScalar _ s) (FailsOnly.ite (ofToken_blockScalar _ s) ?_)
  refine FailsOnly.ite (ofToken_word (hquoted _) s) (FailsOnly.ite (ofToken_word (hquoted _) s) ?_)
  exact FailsOnly.ite (ofToken_plain s) ofToken_malformed

theorem ofToken_next (s : Lexer) : FailsOnly OfToken s.next :=
  (ofToken_dropStale _).bind fun _ _ => ofToken_token _

end Lexer

/-- What ends the tokens of a document before its end is one of these troubles. -/
theorem Tokens.ofToken_from_ (n : Nat) (s : Lexer) : ∀ t ∈ (from_ n s).trouble, OfToken t := by
  induction n generalizing s with
  | zero =>
    rintro t ⟨⟩
    exact .malformed
  | succ n ih =>
    rw [from_]
    split
    · rintro t ⟨⟩
    split
    · rename_i e he
      rintro t ⟨⟩
      exact Lexer.ofToken_next s e he
    · exact ih _

theorem Tokens.ofToken_ofChars (standIns : Text.StandIns) (cs : List Char) :
    ∀ t ∈ (ofChars standIns cs).trouble, OfToken t := by
  rw [ofChars]
  split
  · exact ofToken_from_ _ _
  · rintro t ⟨⟩
    exact .malformed

end Scaffold.Yaml
