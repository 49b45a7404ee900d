import Mathlib.Algebra.Group.Nat.Defs
import Mathlib.Data.List.Basic
import Mathlib.Data.Nat.Basic
import Scaffold.Proofs.Fallible
import Scaffold.Text.Utf8

/-! # Decoding UTF-8

The decoder succeeds on the encoded texts and on nothing else, and gives the text back. A sequence
under way is completed by the bytes that hold the lower bits of a code point, six in each.
-/

namespace Scaffold.Text

variable {b : UInt8} {bs rest : List UInt8} {c : Char} {cs : List Char} {n v position : Nat}

def continuation : Nat → Nat → List UInt8
  | 0, _ => []
  | n + 1, v => UInt8.ofNat (v / 64 ^ n % 64 + 128) :: continuation n v

theorem decodeFrom_ascii (h : b < 0x80) : decodeFrom position none (b :: bs) = .ok cs ↔
    ∃ cs', decodeFrom (position + 1) none bs = .ok cs' ∧ Char.ofNat b.toNat :: cs' = cs := by
  rw [decodeFrom, if_pos h]
  exact map_eq_ok

theorem decodeFrom_lead (h : ¬ b < 0x80) : decodeFrom position none (b :: bs) = .ok cs ↔
    ∃ p, Pending.ofLead? position b = some p ∧ decodeFrom (position + 1) (some p) bs = .ok cs := by
  rw [decodeFrom, if_neg h]
  cases Pending.ofLead? position b <;> simp

theorem decodeFrom_pending {p : Pending} : decodeFrom position (some p) bs = .ok cs ↔
    ∃ b rest, bs = b :: rest ∧ (p.low ≤ b ∧ b ≤ p.high) ∧
      match p.missing with
      | 0 => ∃ cs', decodeFrom (position + 1) none rest = .ok cs' ∧
          Char.ofNat (p.value * 64 + (b.toNat - 0x80)) :: cs' = cs
      | missing + 1 => decodeFrom (position + 1)
          (some ⟨p.start, p.lead, p.value * 64 + (b.toNat - 0x80), missing, 0x80, 0xBF⟩) rest =
          .ok cs := by
  cases bs with
  | nil => simp [decodeFrom]
  | cons b bs =>
    rw [decodeFrom]
    by_cases hb : p.low ≤ b ∧ b ≤ p.high
    · rw [if_pos hb]
      dsimp only
      cases p.missing with
      | zero =>
        refine map_eq_ok.trans ⟨fun h => ⟨b, bs, rfl, hb, h⟩, ?_⟩
        rintro ⟨_, _, ⟨⟩, -, h⟩
        exact h
      | succ missing => simp [hb]
    · simp [hb]

def Pending.Bounded (p : Pending) : Prop := 0x80 ≤ p.low.toNat ∧ p.high.toNat ≤ 0xBF

/-- Whether a code point has the bits of a sequence under way above those that are missing, and the
next of these within bounds. -/
def Pending.Admits (p : Pending) (v : Nat) : Prop :=
  v / 64 ^ (p.missing + 1) = p.value ∧
    p.low.toNat ≤ v / 64 ^ p.missing % 64 + 128 ∧ v / 64 ^ p.missing % 64 + 128 ≤ p.high.toNat

theorem toNat_continuation (v n : Nat) :
    (UInt8.ofNat (v / 64 ^ n % 64 + 128)).toNat = v / 64 ^ n % 64 + 128 := by
  rw [UInt8.toNat_ofNat']
  omega

theorem div_pow_succ (v n : Nat) : v / 64 ^ (n + 1) = v / 64 ^ n / 64 := by
  rw [Nat.pow_succ, Nat.div_div_eq_div_mul]

/-- A byte within bounds is the next one of every code point that goes on with its bits. -/
theorem Pending.admits_iff {p : Pending} (hp : p.Bounded) (hb : p.low ≤ b ∧ b ≤ p.high) :
    v / 64 ^ p.missing = p.value * 64 + (b.toNat - 0x80) ↔
      p.Admits v ∧ UInt8.ofNat (v / 64 ^ p.missing % 64 + 128) = b := by
  obtain ⟨hlow, hhigh⟩ := hp
  rw [UInt8.le_iff_toNat_le, UInt8.le_iff_toNat_le] at hb
  rw [Admits, div_pow_succ, ← UInt8.toNat_inj, toNat_continuation]
  omega

theorem Pending.Admits.within {p : Pending} (h : p.Admits v) :
    p.low ≤ UInt8.ofNat (v / 64 ^ p.missing % 64 + 128) ∧
      UInt8.ofNat (v / 64 ^ p.missing % 64 + 128) ≤ p.high := by
  rw [UInt8.le_iff_toNat_le, UInt8.le_iff_toNat_le, toNat_continuation]
  exact h.2

/-- A sequence under way is read up to the end of the code point that it belongs to. -/
theorem decodeFrom_some {p : Pending} (hp : p.Bounded) :
    decodeFrom position (some p) bs = .ok cs ↔
      ∃ v rest cs', bs = continuation (p.missing + 1) v ++ rest ∧ p.Admits v ∧
        decodeFrom (position + (p.missing + 1)) none rest = .ok cs' ∧ Char.ofNat v :: cs' = cs := by
  obtain ⟨start, lead, value, missing, low, high⟩ := p
  rw [decodeFrom_pending]
  induction missing generalizing position bs value low high with
  | zero =>
    constructor
    · rintro ⟨b, rest, rfl, hb, cs', hrest, rfl⟩
      obtain ⟨hv, hbyte⟩ := (Pending.admits_iff hp hb).mp (Nat.div_one _)
      exact ⟨_, rest, cs', congrArg (· :: rest) hbyte.symm, hv, hrest, rfl⟩
    · rintro ⟨v, rest, cs', rfl, hv, hrest, rfl⟩
      have hbits := (Pending.admits_iff hp hv.within).mpr ⟨hv, rfl⟩
      refine ⟨_, rest, rfl, hv.within, cs', hrest, ?_⟩
      rw [← hbits]
      exact congrArg (Char.ofNat · :: cs') (Nat.div_one v)
  | succ missing ih =>
    have hposition : position + 1 + (missing + 1) = position + (missing + 1 + 1) := by omega
    have hnext (value : Nat) : Pending.Bounded ⟨start, lead, value, missing, 0x80, 0xBF⟩ :=
      ⟨Nat.le_refl _, Nat.le_refl _⟩
    constructor
    · rintro ⟨b, rest, rfl, hb, h⟩
      obtain ⟨v, rest, cs', rfl, hv, hrest, rfl⟩ :=
        (ih _ _ _ (hnext _)).mp (decodeFrom_pending.mp h)
      obtain ⟨hadmits, hbyte⟩ := (Pending.admits_iff hp hb).mp hv.1
      refine ⟨v, rest, cs', ?_, hadmits, hposition ▸ hrest, rfl⟩
      exact congrArg (· :: (continuation (missing + 1) v ++ rest)) hbyte.symm
    · rintro ⟨v, rest, cs', rfl, hv, hrest, rfl⟩
      have hbits := (Pending.admits_iff hp hv.within).mpr ⟨hv, rfl⟩
      refine ⟨_, continuation (missing + 1) v ++ rest, rfl, hv.within, ?_⟩
      refine decodeFrom_pending.mpr
        ((ih _ _ _ (hnext _)).mpr ⟨v, rest, cs', rfl, ⟨hbits, ?_⟩, ?_, rfl⟩)
      · have hlow : (0x80 : UInt8).toNat = 128 := rfl
        have hhigh : (0xBF : UInt8).toNat = 191 := rfl
        dsimp only
        omega
      · dsimp only
        rw [hposition]
        exact hrest

/-- The forms of a sequence: the byte that begins it, the code point that it is for, and how many
bytes come after the second one. -/
inductive Begins (b : UInt8) (v : Nat) : Nat → Prop
  | two (hb : b.toNat = v / 64 + 0xC0) (hv : 0x80 ≤ v ∧ v < 0x800) : Begins b v 0
  | three (hb : b.toNat = v / 4096 + 0xE0)
      (hv : 0x800 ≤ v ∧ v < 0xD800 ∨ 0xE000 ≤ v ∧ v < 0x10000) : Begins b v 1
  | four (hb : b.toNat = v / 262144 + 0xF0) (hv : 0x10000 ≤ v ∧ v < 0x110000) : Begins b v 2

theorem ofLead?_eq (position : Nat) (b : UInt8) : Pending.ofLead? position b =
    if b.toNat < 0xC2 then none
    else if b.toNat < 0xE0 then some ⟨position, b, b.toNat - 0xC0, 0, 0x80, 0xBF⟩
    else if b.toNat < 0xF0 then
      some ⟨position, b, b.toNat - 0xE0, 1, if b.toNat = 0xE0 then 0xA0 else 0x80,
        if b.toNat = 0xED then 0x9F else 0xBF⟩
    else if b.toNat < 0xF5 then
      some ⟨position, b, b.toNat - 0xF0, 2, if b.toNat = 0xF0 then 0x90 else 0x80,
        if b.toNat = 0xF4 then 0x8F else 0xBF⟩
    else none := by
  simp only [Pending.ofLead?, UInt8.lt_iff_toNat_lt, ← UInt8.toNat_inj]
  rfl

theorem bounded_of_ofLead? {p : Pending} (h : Pending.ofLead? position b = some p) :
    p.Bounded := by
  rw [ofLead?_eq] at h
  split at h
  · cases h
  split at h
  · cases h
    exact ⟨Nat.le_refl _, Nat.le_refl _⟩
  split at h
  · cases h
    constructor <;> dsimp only <;> split <;> decide
  split at h
  · cases h
    constructor <;> dsimp only <;> split <;> decide
  · cases h

theorem toNat_bound (c : Prop) [Decidable c] (x y : UInt8) :
    (if c then x else y).toNat = if c then x.toNat else y.toNat :=
  apply_ite _ _ _ _

/-- What the decoder takes for the beginning of a sequence is one. -/
theorem begins_of_admits {p : Pending} (h : Pending.ofLead? position b = some p)
    (hv : p.Admits v) : Begins b v p.missing := by
  rw [ofLead?_eq] at h
  split at h
  · cases h
  split at h
  · cases h
    simp only [Pending.Admits, Nat.zero_add, Nat.pow_one] at hv
    exact .two (by omega) (by omega)
  split at h
  · cases h
    simp only [Pending.Admits, toNat_bound, Nat.reducePow, Nat.reduceAdd, UInt8.reduceToNat] at hv
    refine .three (by omega) ?_
    split at hv <;> split at hv <;> omega
  split at h
  · cases h
    simp only [Pending.Admits, toNat_bound, Nat.reducePow, Nat.reduceAdd, UInt8.reduceToNat] at hv
    refine .four (by omega) ?_
    split at hv <;> split at hv <;> omega
  · cases h

theorem Begins.exists_ofLead? (h : Begins b v n) (position : Nat) :
    ∃ p, Pending.ofLead? position b = some p ∧ p.missing = n ∧ p.Admits v := by
  rw [ofLead?_eq]
  cases h with
  | two hb hv =>
    rw [if_neg (by omega), if_pos (by omega)]
    refine ⟨_, rfl, rfl, ?_⟩
    simp only [Pending.Admits, Nat.zero_add, Nat.pow_one, UInt8.reduceToNat, Nat.pow_zero,
      Nat.div_one]
    omega
  | three hb hv =>
    rw [if_neg (by omega), if_neg (by omega), if_pos (by omega)]
    refine ⟨_, rfl, rfl, ?_⟩
    simp only [Pending.Admits, toNat_bound, Nat.reducePow, Nat.reduceAdd, UInt8.reduceToNat]
    split <;> split <;> omega
  | four hb hv =>
    rw [if_neg (by omega), if_neg (by omega), if_neg (by omega), if_pos (by omega)]
    refine ⟨_, rfl, rfl, ?_⟩
    simp only [Pending.Admits, toNat_bound, Nat.reducePow, Nat.reduceAdd, UInt8.reduceToNat]
    split <;> split <;> omega

theorem toNat_ofNat (h : v.isValidChar) : (Char.ofNat v).toNat = v := by
  rw [Char.ofNat, dif_pos h]
  rfl

theorem Begins.isValidChar (h : Begins b v n) : v.isValidChar := by
  rw [Nat.isValidChar]
  cases h <;> omega

theorem Begins.encode (h : Begins b v n) :
    String.utf8EncodeChar (Char.ofNat v) = b :: continuation (n + 1) v := by
  have hval : (Char.ofNat v).val.toNat = v := toNat_ofNat h.isValidChar
  rw [String.utf8EncodeChar, hval]
  have hlead (m : Nat) (hm : m % 256 = b.toNat) : UInt8.ofNat m = b := by
    rw [← UInt8.toNat_inj, UInt8.toNat_ofNat', hm]
  cases h with
  | two hb hv =>
    rw [if_neg (by omega), if_pos (by omega), hlead _ (by omega)]
    simp [continuation]
  | three hb hv =>
    rw [if_neg (by omega), if_neg (by omega), if_pos (by omega), hlead _ (by omega)]
    simp [continuation]
  | four hb hv =>
    rw [if_neg (by omega), if_neg (by omega), if_neg (by omega), hlead _ (by omega)]
    simp [continuation]

theorem exists_begins (hc : 0x80 ≤ c.toNat) : ∃ b n, Begins b c.toNat n := by
  have hbyte (m : Nat) (hm : m < 256) : (UInt8.ofNat m).toNat = m := by
    rw [UInt8.toNat_ofNat', Nat.mod_eq_of_lt hm]
  have hvalid : c.toNat.isValidChar := c.valid
  rw [Nat.isValidChar] at hvalid
  by_cases h2 : c.toNat < 0x800
  · exact ⟨.ofNat (c.toNat / 64 + 0xC0), 0, .two (hbyte _ (by omega)) ⟨hc, h2⟩⟩
  by_cases h3 : c.toNat < 0x10000
  · exact ⟨.ofNat (c.toNat / 4096 + 0xE0), 1, .three (hbyte _ (by omega)) (by omega)⟩
  · exact ⟨.ofNat (c.toNat / 262144 + 0xF0), 2, .four (hbyte _ (by omega)) (by omega)⟩

theorem utf8EncodeChar_ascii (hc : c.toNat < 0x80) :
    String.utf8EncodeChar c = [UInt8.ofNat c.toNat] := by
  have hval : c.val.toNat ≤ 127 := Nat.le_of_lt_succ hc
  rw [String.utf8EncodeChar, if_pos hval]
  rfl

theorem Begins.not_ascii (h : Begins b v n) : ¬ b < 0x80 := by
  intro hlt
  have hb : b.toNat < 128 := UInt8.lt_iff_toNat_lt.mp hlt
  cases h <;> omega

theorem decodeFrom_encode (c : Char) (h : ∀ position, decodeFrom position none bs = .ok cs)
    (position : Nat) :
    decodeFrom position none (String.utf8EncodeChar c ++ bs) = .ok (c :: cs) := by
  by_cases hc : c.toNat < 0x80
  · have hbyte : (UInt8.ofNat c.toNat).toNat = c.toNat := by
      rw [UInt8.toNat_ofNat']
      omega
    rw [utf8EncodeChar_ascii hc]
    refine (decodeFrom_ascii ?_).mpr ⟨cs, h _, ?_⟩
    · rw [UInt8.lt_iff_toNat_lt, hbyte]
      exact hc
    · rw [hbyte, Char.ofNat_toNat]
  · obtain ⟨b, n, hb⟩ := exists_begins (Nat.le_of_not_lt hc)
    obtain ⟨p, hp, rfl, hv⟩ := hb.exists_ofLead? position
    have hencode := hb.encode
    rw [Char.ofNat_toNat] at hencode
    rw [hencode]
    refine (decodeFrom_lead hb.not_ascii).mpr ⟨p, hp, ?_⟩
    exact (decodeFrom_some (bounded_of_ofLead? hp)).mpr
      ⟨_, bs, cs, rfl, hv, h _, by rw [Char.ofNat_toNat]⟩

theorem encode_decodeFrom (h : decodeFrom position none (b :: bs) = .ok cs) :
    ∃ c rest cs' position', b :: bs = String.utf8EncodeChar c ++ rest ∧
      decodeFrom position' none rest = .ok cs' ∧ c :: cs' = cs := by
  by_cases hb : b < 0x80
  · obtain ⟨cs', hrest, rfl⟩ := (decodeFrom_ascii hb).mp h
    refine ⟨_, bs, cs', _, ?_, hrest, rfl⟩
    have hlt : b.toNat < 128 := UInt8.lt_iff_toNat_lt.mp hb
    have hc : (Char.ofNat b.toNat).toNat = b.toNat := toNat_ofNat (Or.inl (by omega))
    rw [utf8EncodeChar_ascii (by omega), hc, UInt8.ofNat_toNat]
    rfl
  · obtain ⟨p, hp, h⟩ := (decodeFrom_lead hb).mp h
    obtain ⟨v, rest, cs', rfl, hv, hrest, rfl⟩ := (decodeFrom_some (bounded_of_ofLead? hp)).mp h
    refine ⟨_, rest, cs', _, ?_, hrest, rfl⟩
    rw [(begins_of_admits hp hv).encode]
    rfl

theorem decodeFrom_eq_ok :
    decodeFrom position none bs = .ok cs ↔ bs = cs.flatMap String.utf8EncodeChar := by
  constructor
  · intro h
    -- the induction is on the number of bytes, of which a character takes one to four
    induction hn : bs.length using Nat.strongRecOn generalizing bs cs position with
    | ind n ih =>
      cases bs with
      | nil =>
        cases h
        rfl
      | cons b bs =>
        obtain ⟨c, rest, cs', position', hbs, hrest, rfl⟩ := encode_decodeFrom h
        have hlength := congrArg List.length hbs
        have hpos := c.utf8Size_pos
        rw [List.length_append, String.length_utf8EncodeChar, hn] at hlength
        rw [hbs, List.flatMap_cons, ← ih rest.length (by omega) hrest rfl]
  · rintro rfl
    induction cs generalizing position with
    | nil => rfl
    | cons c cs ih => exact decodeFrom_encode c (fun _ => ih) position

theorem toList_toByteArray (bs : List UInt8) : bs.toByteArray.toList = bs := by
  have hloop (bs : ByteArray) (i : Nat) (r : List UInt8) :
      ByteArray.toList.loop bs i r = r.reverse ++ bs.data.toList.drop i := by
    fun_induction ByteArray.toList.loop bs i r with
    | case1 i r h ih =>
      have hi : i < bs.data.toList.length := by simpa using h
      rw [ih, List.drop_eq_getElem_cons (l := bs.data.toList) hi]
      simp [ByteArray.get!, h]
    | case2 i r h =>
      rw [List.drop_eq_nil_of_le (by simpa using Nat.le_of_not_lt h)]
      simp
  rw [ByteArray.toList, hloop]
  simp

/-- What can be decoded is the encoding of a text. -/
theorem decodeUtf8_eq_ok : decodeUtf8 bs = .ok cs ↔ bs = (String.ofList cs).toUTF8.toList := by
  have hbytes : (String.ofList cs).toUTF8 = (cs.flatMap String.utf8EncodeChar).toByteArray :=
    String.toByteArray_ofList
  rw [decodeUtf8, decodeFrom_eq_ok, hbytes, toList_toByteArray]

end Scaffold.Text
