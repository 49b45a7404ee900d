/-! # Reading UTF-8

Decoding walks over the bytes once and remembers the sequence it is in. Malformed input is reported
with the positions of the bytes that cannot be read and the reason.
-/

namespace Scaffold.Text

inductive Utf8Reason
  | endOfData
  | startByte
  | continuationByte
  deriving DecidableEq, Repr

/-- Bytes `first` to `last` cannot be read; `byte` is the first of them. -/
structure Malformed where
  byte : UInt8
  first : Nat
  last : Nat
  reason : Utf8Reason
  deriving DecidableEq, Repr

/-- A sequence begun at position `start` by `lead`: `missing + 1` more bytes are due, the next of
them between `low` and `high`. -/
structure Pending where
  start : Nat
  lead : UInt8
  value : Nat
  missing : Nat
  low : UInt8
  high : UInt8

/-- What a byte outside any sequence begins. Overlong forms and surrogates have no lead byte. -/
def Pending.ofLead? (start : Nat) (b : UInt8) : Option Pending :=
  if b < 0xC2 then none
  else if b < 0xE0 then some ⟨start, b, b.toNat - 0xC0, 0, 0x80, 0xBF⟩
  else if b < 0xF0 then
    some ⟨start, b, b.toNat - 0xE0, 1, if b = 0xE0 then 0xA0 else 0x80,
      if b = 0xED then 0x9F else 0xBF⟩
  else if b < 0xF5 then
    some ⟨start, b, b.toNat - 0xF0, 2, if b = 0xF0 then 0x90 else 0x80,
      if b = 0xF4 then 0x8F else 0xBF⟩
  else none

def decodeFrom (position : Nat) : Option Pending → List UInt8 → Except Malformed (List Char)
  | none, [] => .ok []
  | some p, [] => .error ⟨p.lead, p.start, position - 1, .endOfData⟩
  | none, b :: bs =>
    if b < 0x80 then (decodeFrom (position + 1) none bs).map (Char.ofNat b.toNat :: ·)
    else
      match Pending.ofLead? position b with
      | none => .error ⟨b, position, position, .startByte⟩
      | some p => decodeFrom (position + 1) (some p) bs
  | some p, b :: bs =>
    if p.low ≤ b ∧ b ≤ p.high then
      let value := p.value * 64 + (b.toNat - 0x80)
      match p.missing with
      | 0 => (decodeFrom (position + 1) none bs).map (Char.ofNat value :: ·)
      | missing + 1 =>
        decodeFrom (position + 1) (some ⟨p.start, p.lead, value, missing, 0x80, 0xBF⟩) bs
    else .error ⟨p.lead, p.start, position - 1, .continuationByte⟩

def decodeUtf8 (bs : List UInt8) : Except Malformed (List Char) := decodeFrom 0 none bs

/-- Every line end, be it a line feed, a carriage return or both, becomes a line feed. -/
def normalizeNewlines : List Char → List Char
  | [] => []
  | '\r' :: '\n' :: cs => '\n' :: normalizeNewlines cs
  | c :: cs => (if c = '\r' then '\n' else c) :: normalizeNewlines cs

end Scaffold.Text
