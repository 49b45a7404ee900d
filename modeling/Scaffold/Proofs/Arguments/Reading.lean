import Mathlib.Data.List.Infix
import Scaffold.Arguments.Reading
import Scaffold.Proofs.Fallible

/-! # Where readings come from

The rules by which arguments are read, one for each thing that can stand in front. From them follows
that every value of a reading has a source in the arguments: the words of a slot are arguments, and
an option is read only where an argument spells one of its names.
-/

namespace Scaffold.Arguments

/-- Whether an argument spells a name: it starts like the name, with more than the dashes, and
either ends there or goes on with an equals sign; anything may stand behind a short name. -/
def Spells (name argument : List Char) : Prop :=
  ∃ start tail, argument = start ++ tail ∧ 2 ≤ start.length ∧ start ≠ ['-', '-'] ∧ start <+: name ∧
    (tail.head?.all (· == '=') = true ∨ name.length = 2)

def Gives (o : Opt) (arguments : List String) : Prop :=
  ∃ a ∈ arguments, ∃ name ∈ o.names, Spells name.toList a.toList

def isLong (name : String) : Bool := ['-', '-'].isPrefixOf name.toList

namespace Grammar

/-- A grammar whose flags, unlike the requests for help, have only long names. If it has more to
offer than help there are several of these, so that two dashes alone are short for none. -/
structure Plain (g : Grammar) : Prop where
  named : ∀ e ∈ g.named, 2 ≤ e.1.toList.length ∧ e.1.toList ≠ ['-', '-']
  flags : ∀ o ∈ g.options, o.role = .flag → ∀ name ∈ o.names, isLong name = true
  several : (∀ o ∈ g.options, o.role = .help) ∨ 2 ≤ (g.named.filter fun e => isLong e.1).length

instance (g : Grammar) : Decidable g.Plain :=
  decidable_of_iff (_ ∧ _ ∧ _) ⟨fun ⟨a, b, c⟩ => ⟨a, b, c⟩, fun ⟨a, b, c⟩ => ⟨a, b, c⟩⟩

structure Fits (g : Grammar) (argument : List Char) (m : Match) : Prop where
  option : m.option ∈ g.options
  name : m.name ∈ m.option.names
  spells : m.option.role ≠ .help → Spells m.name.toList argument
  tail : isLong m.name = true → m.tail.head?.all (· == '=') = true

variable {g : Grammar} {m : Match} {cs : List Char} {o : Opt} {argument : String} {k : Mark}
  {args rest : List Argument} {r r' : Reading} {n : Nat}

theorem mem_named {e : String × Opt} : e ∈ g.named ↔ e.2 ∈ g.options ∧ e.1 ∈ e.2.names := by
  obtain ⟨name, o⟩ := e
  simp only [named, List.mem_flatMap, List.mem_map, Prod.mk.injEq]
  constructor
  · rintro ⟨o', ho, name', hn, rfl, rfl⟩
    exact ⟨ho, hn⟩
  · rintro ⟨ho, hn⟩
    exact ⟨o, ho, name, hn, rfl, rfl⟩

theorem option?_eq_some {name : String} (h : g.option? name = some o) :
    o ∈ g.options ∧ name ∈ o.names := by
  rw [option?] at h
  exact ⟨List.mem_of_find?_eq_some h, by simpa using List.find?_some h⟩

theorem splitName_eq (cs : List Char) :
    cs = (splitName cs).1 ++ (splitName cs).2 ∧
      (splitName cs).2.head?.all (· == '=') = true := by
  rw [splitName, List.span_eq_takeWhile_dropWhile]
  refine ⟨(List.takeWhile_append_dropWhile).symm, ?_⟩
  have h := List.head?_dropWhile_not (fun c => decide (c ≠ '=')) cs
  rcases hd : cs.dropWhile (fun c => decide (c ≠ '=')) with _ | ⟨c, t⟩
  · rfl
  · rw [hd] at h
    simpa using h

theorem isLong_iff {name : String} : isLong name = true ↔ ['-', '-'] <+: name.toList := by
  rw [isLong, List.isPrefixOf_iff_prefix]

theorem assigned?_eq (g : Grammar) (cs : List Char) : g.assigned? cs =
    (g.option? (String.ofList (splitName cs).1)).map fun o =>
      ⟨String.ofList (splitName cs).1, o, (splitName cs).2⟩ := rfl

theorem fits_assigned? (hg : g.Plain) (h : g.assigned? cs = some m) : g.Fits cs m := by
  obtain ⟨hs, ht⟩ := splitName_eq cs
  rw [assigned?_eq] at h
  obtain ⟨o, ho, rfl⟩ := Option.map_eq_some_iff.mp h
  obtain ⟨hmem, hname⟩ := option?_eq_some ho
  have hn := hg.named (String.ofList (splitName cs).1, o) (mem_named.mpr ⟨hmem, hname⟩)
  simp only [String.toList_ofList] at hn
  refine ⟨hmem, hname, fun _ => ⟨_, _, hs, hn.1, hn.2, ?_, Or.inl ht⟩, fun _ => ht⟩
  rw [String.toList_ofList]

theorem candidates_long (g : Grammar) (t : List Char) : g.candidates ('-' :: '-' :: t) =
    (g.named.filter fun e => (splitName ('-' :: '-' :: t)).1.isPrefixOf e.1.toList).map fun e =>
      ⟨e.1, e.2, (splitName ('-' :: '-' :: t)).2⟩ := rfl

theorem candidates_short (g : Grammar) {c : Char} (hc : c ≠ '-') (t : List Char) :
    g.candidates ('-' :: c :: t) = g.named.filterMap fun e =>
      if e.1.toList = ['-', c] then some ⟨e.1, e.2, t⟩
      else if ('-' :: c :: t).isPrefixOf e.1.toList then some ⟨e.1, e.2, []⟩
      else none := by
  rw [candidates]
  · rfl
  · rintro t' ⟨⟩
    exact hc rfl

/-- Two dashes before an equals sign could be short for any long name. -/
theorem fits_long (hg : g.Plain) {t : List Char} (h : g.candidates ('-' :: '-' :: t) = [m]) :
    g.Fits ('-' :: '-' :: t) m := by
  obtain ⟨hs, ht⟩ := splitName_eq ('-' :: '-' :: t)
  have hdashes (hv : ¬∀ o ∈ g.options, o.role = .help) :
      (splitName ('-' :: '-' :: t)).1 ≠ ['-', '-'] := by
    intro hd
    have hl := congrArg List.length h
    have hl' := hg.several.resolve_left hv
    rw [candidates_long, hd, List.length_map, List.length_singleton] at hl
    simp only [isLong] at hl'
    omega
  have hstart : 2 ≤ (splitName ('-' :: '-' :: t)).1.length := by
    rw [splitName, List.span_eq_takeWhile_dropWhile]
    simp
  have hm : m ∈ g.candidates ('-' :: '-' :: t) := by simp [h]
  rw [candidates_long] at hm
  simp only [List.mem_map, List.mem_filter, List.isPrefixOf_iff_prefix] at hm
  obtain ⟨e, ⟨he, hp⟩, rfl⟩ := hm
  obtain ⟨ho, hname⟩ := mem_named.mp he
  refine ⟨ho, hname, fun hr => ?_, fun _ => ht⟩
  exact ⟨_, _, hs, hstart, hdashes fun hv => hr (hv _ ho), hp, Or.inl ht⟩

theorem fits_short {c : Char} (hc : c ≠ '-') {t : List Char}
    (h : m ∈ g.candidates ('-' :: c :: t)) : g.Fits ('-' :: c :: t) m := by
  rw [candidates_short g hc, List.mem_filterMap] at h
  obtain ⟨e, he, hm⟩ := h
  obtain ⟨ho, hname⟩ := mem_named.mp he
  split at hm
  · rename_i hn
    cases hm
    have hlong : isLong e.1 ≠ true := by
      rw [Ne, isLong_iff, hn]
      simp [hc.symm]
    refine ⟨ho, hname, fun _ => ⟨['-', c], t, rfl, by simp, by simp [hc], ?_, Or.inr ?_⟩,
      fun hl => absurd hl hlong⟩
    · rw [hn]
    · rw [hn]
      rfl
  split at hm
  · rename_i hp
    cases hm
    rw [List.isPrefixOf_iff_prefix] at hp
    refine ⟨ho, hname, fun _ => ?_, fun _ => rfl⟩
    exact ⟨_, [], (List.append_nil _).symm, by simp, by simp [hc], hp, Or.inl rfl⟩
  · cases hm

theorem fits_mark (hg : g.Plain) (h : g.mark argument = .ok (.option m)) :
    g.Fits argument.toList m := by
  rw [mark] at h
  generalize argument.toList = cs at h ⊢
  split at h
  · cases h
  rename_i hn
  rw [not_or, Classical.not_not] at hn
  split at h
  · rename_i ha
    cases h
    exact fits_assigned? hg ha
  split at h
  · rename_i hc
    cases h
    obtain ⟨c, t, rfl⟩ : ∃ c t, cs = '-' :: c :: t := by
      rcases cs with _ | ⟨a, _ | ⟨c, t⟩⟩ <;> simp_all
    by_cases hcd : c = '-'
    · subst hcd
      exact fits_long hg hc
    · exact fits_short hcd (by simp [hc])
  · exfalso
    rw [Except.ok.injEq] at h
    split at h <;> cases h
  · cases h

def Known (g : Grammar) (arguments : List String) (args : List Argument) : Prop :=
  ∀ a ∈ args, a.text ∈ arguments ∧ ∀ m, a.mark = .option m → g.Fits a.text.toList m

theorem known_markAll (hg : g.Plain) {arguments : List String}
    (h : g.markAll arguments = .ok args) : g.Known arguments args := by
  induction arguments generalizing args with
  | nil =>
    cases h
    simp [Known]
  | cons a rest ih =>
    rw [markAll] at h
    split at h
    · cases h
      simp +contextual [Known]
    · obtain ⟨k, hk, h⟩ := bind_eq_ok.mp h
      obtain ⟨bs, hb, h⟩ := bind_eq_ok.mp h
      cases h
      refine List.forall_mem_cons.mpr ⟨⟨by simp, ?_⟩, fun b hb' => ?_⟩
      · rintro m rfl
        exact fits_mark hg hk
      · obtain ⟨ht, hf⟩ := ih hb b hb'
        exact ⟨List.mem_cons_of_mem a ht, hf⟩

theorem Known.mono {arguments : List String} (h : g.Known arguments args)
    (hs : ∀ a ∈ rest, a ∈ args) : g.Known arguments rest := fun a ha => h a (hs a ha)

theorem unfold_flag (ho : o.takesWord = false) {c : Cluster} (h : g.unfold o cs = .ok c)
    (ht : cs.head?.all (· == '=') = true) : c = { flags := [o] } := by
  cases cs with
  | nil =>
    rw [unfold, ho] at h
    cases h
    rfl
  | cons d ds =>
    have hd : d = '=' := by simpa using ht
    rw [unfold, ho, if_neg (by simp), if_pos hd] at h
    cases h

theorem unfold_taker (ho : o.takesWord = true) {c : Cluster} (h : g.unfold o cs = .ok c) :
    ∃ w, c = { taker := some (o, w) } := by
  cases cs with
  | nil =>
    rw [unfold, if_pos ho] at h
    cases h
    exact ⟨_, rfl⟩
  | cons d ds =>
    rw [unfold, if_pos ho] at h
    cases h
    exact ⟨_, rfl⟩

theorem mem_flags_unfold (ho : o.takesWord = false) {c : Cluster} (h : g.unfold o cs = .ok c) :
    o ∈ c.flags := by
  cases cs with
  | nil =>
    rw [unfold, ho] at h
    cases h
    simp
  | cons d ds =>
    rw [unfold, ho, if_neg (by simp)] at h
    split at h
    · cases h
    split at h
    · cases h
    split at h
    · cases h
      simp
    · obtain ⟨c', -, h⟩ := bind_eq_ok.mp h
      cases h
      simp

/-- Taking an option adds its words, if any, under its name. A request for help is not taken. -/
theorem takeOption_eq_ok (hg : g.Plain) (hm : g.Fits cs m)
    (h : g.takeOption r m args = .ok (r', n)) :
    m.option.role ≠ .help ∧
      ∃ words, r'.values = r.values ++ [(m.option.key, words)] ∧ r'.pending = r.pending := by
  rw [takeOption] at h
  obtain ⟨c, hc, h⟩ := bind_eq_ok.mp h
  rw [mapError_eq_ok] at hc
  dsimp only at h
  cases ho : m.option.takesWord with
  | true =>
    obtain ⟨w, rfl⟩ := unfold_taker ho hc
    simp only [List.any_nil, Bool.false_eq_true, if_false] at h
    obtain ⟨t, ht, h⟩ := bind_eq_ok.mp h
    obtain ⟨⟨word, k⟩, -, rfl⟩ := map_eq_ok.mp ht
    cases h
    have hr : m.option.role ≠ .help := fun hr => by simp [Opt.takesWord, hr] at ho
    exact ⟨hr, [word], rfl, rfl⟩
  | false =>
    cases hr : m.option.role with
    | value _ => simp [Opt.takesWord, hr] at ho
    | flag =>
      have hlong := hg.flags m.option hm.option hr m.name hm.name
      obtain rfl := unfold_flag ho hc (hm.tail hlong)
      simp only [List.any_cons, hr, List.any_nil, reduceCtorEq, decide_false, Bool.or_self,
        Bool.false_eq_true, if_false] at h
      cases h
      exact ⟨by simp, [], rfl, rfl⟩
    | help =>
      have hany : (c.flags.any fun o => decide (o.role = .help)) = true :=
        List.any_eq_true.mpr ⟨m.option, mem_flags_unfold ho hc, by simp [hr]⟩
      simp only [hany, if_true] at h
      split at h
      · cases h
      · obtain ⟨t, -, h⟩ := bind_eq_ok.mp h
        cases h

end Grammar

namespace Slot

variable {s : Slot} {args rest : List Argument} {words : List String}

theorem take?_eq_some (h : s.take? args = some (words, rest)) :
    (∀ w ∈ words, ∃ a ∈ args, a.text = w) ∧ rest <:+ args := by
  have htexts (as : List Argument) : ∀ w ∈ as.map Argument.text, ∃ a ∈ as, a.text = w :=
    fun w hw => List.mem_map.mp hw
  rw [take?, List.span_eq_takeWhile_dropWhile] at h
  have happ : args.takeWhile (·.mark = .separator) ++ args.dropWhile (·.mark = .separator) = args :=
    List.takeWhile_append_dropWhile
  generalize args.takeWhile (·.mark = .separator) = lead at h happ
  generalize args.dropWhile (·.mark = .separator) = others at h happ
  subst happ
  dsimp only at h
  split at h
  · cases h
    exact ⟨htexts _, List.nil_suffix⟩
  · cases h
  · split at h
    · cases h
      exact ⟨htexts _, List.nil_suffix⟩
    · cases h
  · rename_i a others _
    split at h
    · rw [List.span_eq_takeWhile_dropWhile] at h
      cases h
      have hsub : lead ++ a :: others.takeWhile (·.mark = .separator) ⊆ lead ++ a :: others :=
        List.append_subset.mpr ⟨List.subset_append_left _ _, fun b hb => by
          rcases List.mem_cons.mp hb with rfl | hb
          · simp
          · simp [(List.takeWhile_sublist _).subset hb]⟩
      refine ⟨fun w hw => ?_, ?_⟩
      · obtain ⟨b, hb, ht⟩ := htexts _ w (List.mem_of_mem_erase hw)
        exact ⟨b, hsub hb, ht⟩
      · exact ((List.dropWhile_suffix _).trans (List.suffix_cons a others)).trans
          (List.suffix_append lead _)
    · cases h

end Slot

/-- Where a value of a reading comes from. -/
inductive Source (g : Grammar) (arguments : List String) : String × List String → Prop
  | slot {s : Slot} {words : List String} (hs : s ∈ g.slots) (hw : ∀ w ∈ words, w ∈ arguments) :
      Source g arguments (s.name, words)
  | option {o : Opt} {words : List String} (ho : o ∈ g.options) (ha : Gives o arguments) :
      Source g arguments (o.key, words)

namespace Reading

/-- A reading of which every value has a source, and that leaves slots of the grammar open. -/
structure Sourced (g : Grammar) (arguments : List String) (r : Reading) : Prop where
  values : ∀ e ∈ r.values, Source g arguments e
  pending : ∀ s ∈ r.pending, s ∈ g.slots

variable {g : Grammar} {arguments : List String} {args left : List Argument} {r r' : Reading}

theorem Sourced.put {e : String × List String} (h : r.Sourced g arguments)
    (he : Source g arguments e) : (r.put e.1 e.2).Sourced g arguments where
  values := List.forall_mem_append.mpr ⟨h.values, by simpa using he⟩
  pending := h.pending

theorem Sourced.fillFrom {slots : List Slot} (h : r.Sourced g arguments)
    (hk : g.Known arguments args) (hs : ∀ s ∈ slots, s ∈ g.slots)
    (hf : r.fillFrom args slots = .ok (r', left)) : r'.Sourced g arguments ∧ left <:+ args := by
  induction slots generalizing r args with
  | nil =>
    cases hf
    exact ⟨⟨h.values, by simp⟩, List.suffix_rfl⟩
  | cons s slots ih =>
    rw [Reading.fillFrom] at hf
    split at hf
    · cases hf
      exact ⟨⟨h.values, hs⟩, List.suffix_rfl⟩
    · rename_i words rest ht
      obtain ⟨hw, hsuf⟩ := Slot.take?_eq_some ht
      obtain ⟨-, hf⟩ := check_bind_eq_ok.mp hf
      obtain ⟨hslot, hslots⟩ := List.forall_mem_cons.mp hs
      have hword : ∀ w ∈ words, w ∈ arguments := by
        intro w hm
        obtain ⟨a, ha, rfl⟩ := hw w hm
        exact (hk a ha).1
      have hput := h.put (.slot hslot hword)
      obtain ⟨hr, hl⟩ := ih hput (hk.mono fun a ha => hsuf.subset ha) hslots hf
      exact ⟨hr, hl.trans hsuf⟩

theorem Sourced.fill (h : r.Sourced g arguments) (hk : g.Known arguments args)
    (hf : r.fill args = .ok (r', left)) : r'.Sourced g arguments ∧ left <:+ args :=
  h.fillFrom hk h.pending hf

end Reading

namespace Grammar

variable {g : Grammar} {arguments : List String} {args left rest : List Argument}
  {r r₁ r' : Reading} {m : Match} {a : Argument} {n : Nat}

inductive Reads (g : Grammar) : Reading → List Argument → Reading → Prop
  | finish {r r₁ : Reading} {args left : List Argument} (hf : r.fill args = .ok (r₁, left))
      (hp : r₁.pending = []) :
      Reads g r args { r₁ with strangers := r₁.strangers ++ left.map Argument.text }
  | option {r r₁ r' : Reading} {a : Argument} {rest : List Argument} {m : Match} {n : Nat}
      (hm : a.mark = .option m) (ht : g.takeOption r m rest = .ok (r₁, n))
      (hr : Reads g r₁ (rest.drop n) r') : Reads g r (a :: rest) r'
  | fill {r r₁ r' : Reading} {args left : List Argument} (hf : r.fill args = .ok (r₁, left))
      (hr : Reads g r₁ left r') : Reads g r args r'
  | stray {r r' : Reading} {a : Argument} {rest : List Argument}
      (hr : Reads g { r with strangers := r.strangers ++ [a.text] } rest r') :
      Reads g r (a :: rest) r'

theorem reads_readFrom (h : g.readFrom r args = .ok r') : Reads g r args r' := by
  induction hn : args.length using Nat.strong_induction_on generalizing r args with
  | _ n ih =>
  subst hn
  have finish (h : ((r.fill args).mapError (Stop.problem g) >>= fun p =>
      if p.1.pending ≠ [] then .error (.problem g (.unfilled (p.1.pending.map Slot.name)))
      else .ok { p.1 with strangers := p.1.strangers ++ p.2.map Argument.text }) = .ok r') :
      Reads g r args r' := by
    obtain ⟨⟨r₁, left⟩, hf, h⟩ := bind_eq_ok.mp h
    rw [mapError_eq_ok] at hf
    dsimp only at h
    split at h
    · cases h
    · rename_i hp
      cases h
      exact .finish hf (by simpa using hp)
  unfold readFrom at h
  dsimp only at h
  split at h
  · exact finish h
  split at h
  · exact finish h
  rename_i a rest _
  split at h
  · rename_i m hm
    obtain ⟨⟨r₁, n⟩, ht, h⟩ := bind_eq_ok.mp h
    refine .option hm ht (ih _ ?_ h rfl)
    rw [List.length_drop, List.length_cons]
    omega
  · exact .stray (ih _ (Nat.lt_succ_self _) h rfl)
  all_goals
    obtain ⟨⟨r₁, left⟩, hf, h⟩ := bind_eq_ok.mp h
    rw [mapError_eq_ok] at hf
    split at h
    · exact .fill hf (ih _ ‹_› h rfl)
    · exact .stray (ih _ (Nat.lt_succ_self _) h rfl)

/-- Every value that is read has a source in the arguments. -/
theorem Reads.sourced (hg : g.Plain) (h : Reads g r args r') (hk : g.Known arguments args)
    (hs : r.Sourced g arguments) : r'.Sourced g arguments := by
  induction h with
  | finish hf hp =>
    obtain ⟨h, -⟩ := hs.fill hk hf
    exact ⟨h.values, h.pending⟩
  | @option r r₁ r' a rest m n hm ht hr ih =>
    obtain ⟨ha, hfits⟩ := hk a List.mem_cons_self
    have hfit := hfits m hm
    obtain ⟨hrole, words, hv, hp⟩ := takeOption_eq_ok hg hfit ht
    refine ih (hk.mono fun b hb => List.mem_cons_of_mem a (List.mem_of_mem_drop hb)) ⟨?_, ?_⟩
    · rw [hv]
      refine List.forall_mem_append.mpr ⟨hs.values, List.forall_mem_singleton.mpr ?_⟩
      exact .option hfit.option ⟨a.text, ha, m.name, hfit.name, hfit.spells hrole⟩
    · rw [hp]
      exact hs.pending
  | fill hf hr ih =>
    obtain ⟨h, hl⟩ := hs.fill hk hf
    exact ih (hk.mono fun a ha => hl.subset ha) h
  | stray hr ih => exact ih (hk.mono fun b hb => List.mem_cons_of_mem _ hb) ⟨hs.values, hs.pending⟩

theorem sourced_readKnown (hg : g.Plain) (h : g.readKnown arguments = .ok r) :
    r.Sourced g arguments := by
  obtain ⟨args, ha, h⟩ := bind_eq_ok.mp h
  rw [mapError_eq_ok] at ha
  exact (reads_readFrom h).sourced hg (known_markAll hg ha) ⟨by simp, fun s hs => hs⟩

theorem sourced_read (hg : g.Plain) (h : g.read arguments = .ok r) : r.Sourced g arguments := by
  obtain ⟨r₁, hr, h⟩ := bind_eq_ok.mp h
  rw [settle] at h
  split at h
  · cases h
    exact sourced_readKnown hg hr
  · cases h

end Grammar

namespace Reading

variable {g : Grammar} {arguments words : List String} {r : Reading} {name : String}

theorem Sourced.words? (h : r.Sourced g arguments) (hw : r.words? name = some words) :
    Source g arguments (name, words) := by
  rw [Reading.words?] at hw
  obtain ⟨⟨n, ws⟩, he, rfl⟩ := Option.map_eq_some_iff.mp hw
  have hn : n = name := by simpa using List.find?_some he
  subst hn
  exact h.values _ (List.mem_reverse.mp (List.mem_of_find?_eq_some he))

/-- An option has words only if an argument spells it. -/
theorem Sourced.gives {o : Opt} (h : r.Sourced g arguments) (hw : r.words? o.key = some words)
    (hs : ∀ s ∈ g.slots, s.name ≠ o.key) (ho : ∀ o' ∈ g.options, o'.key = o.key → o' = o) :
    Gives o arguments := by
  have hsource := h.words? hw
  generalize he : (o.key, words) = e at hsource
  cases hsource with
  | slot hslot _ => exact absurd (congrArg Prod.fst he).symm (hs _ hslot)
  | option hopt ha => exact ho _ hopt (congrArg Prod.fst he).symm ▸ ha

theorem Sourced.mem_arguments {word : String} (h : r.Sourced g arguments)
    (hw : r.words? name = some words) (ho : ∀ o ∈ g.options, o.key ≠ name) (hm : word ∈ words) :
    word ∈ arguments := by
  have hsource := h.words? hw
  generalize he : (name, words) = e at hsource
  cases hsource with
  | slot _ hwords =>
    cases he
    exact hwords word hm
  | option hopt _ => exact absurd (congrArg Prod.fst he).symm (ho _ hopt)

end Reading

end Scaffold.Arguments
