import Scaffold.Proofs.Fallible
import Scaffold.Proofs.Model.Segments

/-! # Joined field lines

The count of open brackets runs on from part to part, below zero too. A line that closes as many
brackets as it opens leaves the count as it found it, in whatever order they stand, so a line behind
it is cut and read as if it stood alone.
-/

namespace Scaffold.Field

variable {depth : Int} {cs : List Char} {a : String}

/-- Behind a text that leaves no bracket open, a comma ends a part and the rest is cut by itself. -/
theorem segmentsFrom_append_comma (h : depth + balance cs ≤ 0) (ds : List Char) :
    segmentsFrom depth (cs ++ ',' :: ds) =
      segmentsFrom depth cs ++ segmentsFrom (depth + balance cs) ds := by
  induction cs generalizing depth with
  | nil =>
    rw [balance_nil, Int.add_zero] at h ⊢
    exact segmentsFrom_cut h
  | cons c cs ih =>
    rw [balance_cons, ← Int.add_assoc] at h ⊢
    by_cases hc : c = ',' ∧ depth ≤ 0
    · obtain ⟨rfl, hd⟩ := hc
      have hcomma : balance [','] = 0 := by decide
      rw [hcomma, Int.add_zero] at h ⊢
      rw [List.cons_append, segmentsFrom_cut hd, segmentsFrom_cut hd, ih h, List.cons_append]
    · have hkeep : c = ',' → 0 < depth := by
        intro he
        by_contra hd
        exact hc ⟨he, by omega⟩
      obtain ⟨s, ss, hs, he⟩ := segmentsFrom_keep cs hkeep
      obtain ⟨t, ts, ht, hk⟩ := segmentsFrom_keep (cs ++ ',' :: ds) hkeep
      -- the part that the character is put in front of is the first one of the longer text too
      rw [ih h, hs] at ht
      cases ht
      rw [List.cons_append, hk, he]
      rfl

theorem segments_append_comma (h : balance cs = 0) (ds : List Char) :
    segments (cs ++ ',' :: ds) = segments cs ++ segments ds := by
  have hz : (0 : Int) + balance cs ≤ 0 := by omega
  unfold segments
  rw [segmentsFrom_append_comma hz, h, Int.add_zero]

theorem parse_append_comma (h : balance a.toList = 0) (b : String) :
    parse (a ++ "," ++ b) = do
      let fs ← parse a
      let gs ← parse b
      return fs ++ gs := by
  have hline : (a ++ "," ++ b).toList = a.toList ++ ',' :: b.toList := by simp
  unfold parse
  rw [hline, segments_append_comma h, List.mapM_append]
  cases (segments a.toList).mapM ofSegment with
  | error f => rfl
  | ok os =>
    cases (segments b.toList).mapM ofSegment with
    | error f => rfl
    | ok os' => exact congrArg Except.ok List.filterMap_append

/-- A line with as many brackets of one kind as of the other writes its fields in front of those of
the line behind it, and it fails first. What it has no field for does not count. -/
theorem parse_joined (h : a.toList.count '<' = a.toList.count '>') (b : String) :
    (∀ fs, parse (a ++ "," ++ b) = .ok fs ↔
      ∃ as bs, parse a = .ok as ∧ parse b = .ok bs ∧ fs = as ++ bs) ∧
    (∀ f, parse (a ++ "," ++ b) = .error f ↔
      parse a = .error f ∨ (∃ as, parse a = .ok as) ∧ parse b = .error f) ∧
    (parse a = .ok [] → parse (a ++ "," ++ b) = parse b) := by
  have hz : balance a.toList = 0 := by
    unfold balance
    omega
  rw [parse_append_comma hz]
  refine ⟨?_, ?_, ?_⟩
  · intro fs
    constructor
    · intro hfs
      obtain ⟨as, has, hfs⟩ := bind_eq_ok.mp hfs
      obtain ⟨bs, hbs, hfs⟩ := bind_eq_ok.mp hfs
      cases hfs
      exact ⟨as, bs, has, hbs, rfl⟩
    · rintro ⟨as, bs, has, hbs, rfl⟩
      rw [has, hbs]
      rfl
  · intro f
    constructor
    · intro hf
      rcases bind_eq_error.mp hf with hf | ⟨as, has, hf⟩
      · exact Or.inl hf
      · rcases bind_eq_error.mp hf with hf | ⟨bs, -, hf⟩
        · exact Or.inr ⟨⟨as, has⟩, hf⟩
        · cases hf
    · rintro (hf | ⟨⟨as, has⟩, hf⟩)
      · rw [hf]
        rfl
      · rw [has, hf]
        rfl
  · intro hnone
    rw [hnone]
    cases parse b <;> rfl

theorem parse_joined_members :
    parse "first:A>B<,,owner:,tags:List<String>?" =
      .ok [⟨"first", "A>B<", false⟩, ⟨"tags", "List<String>", true⟩] ∧
    parse ("first:A>B<,,owner:,tags:List<String>?" ++ "," ++ "all:Map<String, int>") =
      .ok [⟨"first", "A>B<", false⟩, ⟨"tags", "List<String>", true⟩,
        ⟨"all", "Map<String, int>", false⟩] ∧
    parse ("first:A>B<,,owner:,tags:List<String>?" ++ "," ++ "1:int,2:int") =
      .error (Complaint.illFormed "1" "field name" .identifier) := by
  have hfirst : parse "first:A>B<,,owner:,tags:List<String>?" =
      .ok [⟨"first", "A>B<", false⟩, ⟨"tags", "List<String>", true⟩] := by decide +kernel
  have hall : parse "all:Map<String, int>" = .ok [⟨"all", "Map<String, int>", false⟩] := by
    decide +kernel
  have hdigit : parse "1:int,2:int" =
      .error (Complaint.illFormed "1" "field name" .identifier) := by decide +kernel
  have hcount : "first:A>B<,,owner:,tags:List<String>?".toList.count '<' =
      "first:A>B<,,owner:,tags:List<String>?".toList.count '>' := by decide
  obtain ⟨hok, -, -⟩ := parse_joined hcount "all:Map<String, int>"
  obtain ⟨-, herror, -⟩ := parse_joined hcount "1:int,2:int"
  exact ⟨hfirst, (hok _).mpr ⟨_, _, hfirst, hall, rfl⟩,
    (herror _).mpr (Or.inr ⟨⟨_, hfirst⟩, hdigit⟩)⟩

end Scaffold.Field
