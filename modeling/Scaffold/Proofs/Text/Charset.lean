import Mathlib.Data.List.TakeWhile
import Scaffold.Text.Charset

/-! # What can be encoded

A charset refuses a text exactly when it has no bytes for a part of it. In UTF-8 these parts are the
surrogates: the texts with bytes are those that consist of characters.
-/

namespace Scaffold.Text

variable {ps : List Point} {s : Charset} {bytes : List UInt8}

theorem Charset.refusal?_eq_none :
    s.refusal? ps = none ↔ ∀ p ∈ ps, s.has p = true ∨ s.spares p = true := by
  have hd (good : Point → Bool) : ps.drop (ps.takeWhile good).length = ps.dropWhile good := by
    have h : (ps.takeWhile good ++ ps.dropWhile good).drop (ps.takeWhile good).length =
        ps.dropWhile good := List.drop_left
    rwa [List.takeWhile_append_dropWhile] at h
  have hn := List.dropWhile_eq_nil_iff (l := ps) (p := fun p => s.has p || s.spares p)
  simp only [Bool.or_eq_true] at hn
  rw [refusal?, ← hn]
  simp only [hd]
  split <;> simp_all

theorem map_char_filterMap (h : ∀ p ∈ ps, p.char?.isSome = true) :
    (ps.filterMap Point.char?).map .char = ps := by
  induction ps with
  | nil => rfl
  | cons p ps ih =>
    rw [List.forall_mem_cons] at h
    obtain ⟨c, hc⟩ := Option.isSome_iff_exists.mp h.1
    rw [List.filterMap_cons_some hc, List.map_cons, ih h.2]
    cases p <;> cases hc
    rfl

theorem encode_coe (text : String) : encode text = .ok text.toUTF8.toList := by
  have hr : Charset.utf8.refusal? text = none := by
    rw [Charset.refusal?_eq_none, List.forall_mem_map]
    exact fun c _ => Or.inl rfl
  have hc : (text : List Point).filterMap Point.char? = text.toList := by
    rw [List.filterMap_map]
    exact List.filterMap_some
  simp only [encode, hr, hc, String.ofList_toList]

/-- The texts that have bytes are those of characters. -/
theorem encode_eq_ok :
    encode ps = .ok bytes ↔ ∃ text : String, ps = text ∧ bytes = text.toUTF8.toList := by
  constructor
  · intro h
    cases hr : Charset.utf8.refusal? ps with
    | some e =>
      rw [encode, hr] at h
      cases h
    | none =>
      have hall : ∀ p ∈ ps, p.char?.isSome = true := fun p hp => by
        simpa [Charset.utf8] using Charset.refusal?_eq_none.mp hr p hp
      have hps : ps = (String.ofList (ps.filterMap Point.char?) : List Point) := by
        rw [String.toList_ofList, map_char_filterMap hall]
      rw [hps, encode_coe] at h
      exact ⟨_, hps, (Except.ok.inj h).symm⟩
  · rintro ⟨text, rfl, rfl⟩
    exact encode_coe text

theorem StandIns.point_eq_char {s : StandIns} {c c' : Char} (h : s.point c = .char c') :
    c = c' := by
  rw [point] at h
  split at h
  · cases h
  · exact Point.char.inj h

theorem encode_points_eq_ok {s : StandIns} {text : String}
    (h : encode (s.points text) = .ok bytes) : bytes = text.toUTF8.toList := by
  obtain ⟨text', hp, rfl⟩ := encode_eq_ok.mp h
  have hmem : ∀ c ∈ text.toList, s.point c = .char c := by
    intro c hc
    have hpoint : s.point c ∈ text'.toList.map Point.char := hp ▸ List.mem_map_of_mem hc
    obtain ⟨c', -, he⟩ := List.mem_map.mp hpoint
    rw [← he, StandIns.point_eq_char he.symm]
  rw [StandIns.points, List.map_congr_left hmem] at hp
  have htext := List.map_inj_right (fun _ _ => Point.char.inj) |>.mp hp
  rw [String.toList_inj.mp htext]

end Scaffold.Text
