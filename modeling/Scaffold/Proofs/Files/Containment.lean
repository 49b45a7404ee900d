import Scaffold.Proofs.Files.Output
import Scaffold.Proofs.Files.Path

/-! # What lies in the base

An output path is accepted exactly if the place where it leads lies in the base. The path of that
place leads to itself, so that it is accepted as it stands. Without links the place can be read off
the text of a path, and nothing needs to be there.
-/

namespace Scaffold

/-- A name that a disk can hold; it may still be a double dot. -/
def Path.IsName (name : String) : Prop :=
  Path.isPart name.toList = true ∧ '/' ∉ name.toList ∧ '\x00' ∉ name.toList

instance (name : String) : Decidable (Path.IsName name) := inferInstanceAs (Decidable (_ ∧ _ ∧ _))

namespace Disk

open Scaffold.Path

variable {d : Disk} {depth : Nat} {place b l : Location} {names : List String} {p q : Path}
  {written : String}

/-- Names are what can stand between the slashes of a path, and the targets of links hold no null,
so that a path can be written to everything on the disk. -/
structure WellNamed (d : Disk) : Prop where
  names : ∀ l e, d.entry? l = some e → ∀ n ∈ l, IsName n
  targets : ∀ l target, d.link? l = some target → '\x00' ∉ target.toList

theorem WellNamed.of_entries (h : ∀ x ∈ d.entries, (∀ n ∈ x.1, IsName n) ∧
    '\x00' ∉ ((d.link? x.1).getD "").toList) : d.WellNamed := by
  constructor
  · intro l e he
    rcases eq_or_ne l [] with rfl | hn
    · simp
    exact (h (l, e) (mem_entries hn he)).1
  · intro l target ht
    have hl : d.link? l ≠ none := by simp [ht]
    obtain ⟨x, hx, rfl⟩ := List.mem_map.mp (mem_of_link? hl)
    have := (h x hx).2
    rwa [ht] at this

theorem link?_eq_none (h : ∀ l ∈ d.entries.map Prod.fst, d.link? l = none) (l : Location) :
    d.link? l = none := by
  by_contra hl
  exact hl (h l (mem_of_link? hl))

theorem isName_of_mem_split {cs part : List Char} (h : '\x00' ∉ cs)
    (hm : part ∈ Text.split '/' cs) (hp : isPart part = true) : IsName (String.ofList part) := by
  rw [IsName, String.toList_ofList]
  exact ⟨hp, Text.not_mem_of_mem_split hm, fun hc => h (Text.mem_of_mem_split hm hc)⟩

theorem isName_ofString (h : '\x00' ∉ written.toList) :
    ∀ n ∈ (Path.ofString written).parts, IsName n := by
  intro n hn
  obtain ⟨part, hp, rfl⟩ := List.mem_map.mp hn
  obtain ⟨hm, hp⟩ := List.mem_filter.mp hp
  exact isName_of_mem_split h hm hp

theorem isName_linkParts {target name : String} (h : '\x00' ∉ target.toList)
    (hm : name ∈ linkParts target) (hn : IsPlain name) : IsName name := by
  obtain ⟨hm, hempty⟩ := List.mem_filter.mp hm
  have hparts : name ∈ (Text.split '/' target.toList).map String.ofList := by
    unfold linkPieces at hm
    dsimp only at hm
    split at hm
    · rcases List.mem_append.mp hm with hm | hm
      · exact List.dropLast_subset _ hm
      · exact absurd (List.mem_singleton.mp hm) hn.1
    · exact hm
  obtain ⟨part, hp, rfl⟩ := List.mem_map.mp hparts
  refine isName_of_mem_split h hp ?_
  have hdot : part ≠ ['.'] := by
    rintro rfl
    exact hn.1 rfl
  have hsome : part ≠ [] := by
    rintro rfl
    simp at hempty
  simp [isPart, hsome, hdot]

theorem hasNull_eq_false (h : ∀ n ∈ p.parts, IsName n) : hasNull p = false := by
  rw [hasNull, List.any_eq_false]
  intro n hn
  simpa [isNull] using (h n hn).2.2

theorem isName_join (hp : ∀ n ∈ p.parts, IsName n) (hq : ∀ n ∈ q.parts, IsName n) :
    ∀ n ∈ (p.join q).parts, IsName n := by
  rw [Path.join]
  split
  · rw [List.forall_mem_append]
    exact ⟨hp, hq⟩
  · exact hq

/-- What leads somewhere leads to names that the disk holds or that led there. -/
theorem LeadsIn.isName (hd : d.WellNamed) (h : d.LeadsIn depth place names l)
    (hp : ∀ n ∈ place, IsName n) (hn : ∀ n ∈ names, IsPlain n → IsName n) :
    ∀ n ∈ l, IsName n := by
  have hstart (place : Location) (target : String) (hp : ∀ n ∈ place, IsName n) :
      ∀ n ∈ linkStart place target, IsName n := by
    rw [linkStart]
    split
    · simp
    · exact hp
  induction h with
  | arrive => exact hp
  | stay _ ih => exact ih hp (List.forall_mem_cons.mp hn).2
  | up _ ih =>
    exact ih (fun n hn => hp n (List.dropLast_subset _ hn)) (List.forall_mem_cons.mp hn).2
  | enter hname _ _ ih =>
    obtain ⟨hfirst, hrest⟩ := List.forall_mem_cons.mp hn
    refine ih ?_ hrest
    rw [List.forall_mem_append, List.forall_mem_singleton]
    exact ⟨hp, hfirst hname⟩
  | jump _ hl _ _ iht ihr =>
    refine ihr (iht (hstart _ _ hp) fun n hm => ?_) (List.forall_mem_cons.mp hn).2
    exact isName_linkParts (hd.targets _ _ hl) hm

theorem WellNamed.isName_start (hn : d.WellNamed) (hd : d.WellFormed) (p : Path) :
    ∀ n ∈ d.start p, IsName n := hn.names _ _ (hd.entry?_start p)

theorem Leads.isName (h : d.Leads p l) (hd : d.WellFormed) (hn : d.WellNamed)
    (hp : ∀ n ∈ p.parts, IsName n) : ∀ n ∈ l, IsName n := by
  obtain ⟨depth, h⟩ := h
  exact h.isName hn (hn.isName_start hd p) fun n hm _ => hp n hm

theorem Leads.settled (h : d.Leads p l) (hd : d.WellFormed) : d.Settled l := by
  obtain ⟨depth, h⟩ := h
  exact h.settled (hd.settled_start p)

theorem Settled.leads (h : d.Settled l) : d.Leads ⟨.root, l⟩ l := by
  have hs : d.Settled ([] ++ l) := h
  exact ⟨0, hs.leadsIn⟩

theorem Leads.join (hb : d.Leads p b) (hd : d.WellFormed) (h : d.Leads (p.join q) l) :
    d.Leads ((⟨.root, b⟩ : Path).join q) l := by
  obtain ⟨anchor, parts⟩ := q
  cases anchor with
  | relative =>
    obtain ⟨depth, h⟩ : ∃ depth, d.LeadsIn depth (d.start p) (p.parts ++ parts) l := h
    obtain ⟨k, hk, hl⟩ := h.exists_of_append
    obtain ⟨depth', hb'⟩ := hb
    cases hk.unique hb'
    have hs : d.Settled ([] ++ b) := hb'.settled (hd.settled_start p)
    exact ⟨depth, hs.leadsIn.append hl⟩
  | root => exact h
  | doubleRoot => exact h

end Disk

namespace Output

open Scaffold.Disk Scaffold.Path

variable {d : Disk} {written : String} {base : Option Path} {b l : Location} {p : Path}

/-- The base leads to one place, and the output path, seen from the base, to another one. -/
structure Lands (d : Disk) (written : String) (base : Option Path) (b l : Location) : Prop where
  ofBase : d.Leads (base.getD d.currentPath) b
  ofTarget : d.Leads ((base.getD d.currentPath).join (.ofString written)) l

theorem Lands.resolve_base (h : Lands d written base b l) (hd : d.WellFormed)
    (hb : ∀ n ∈ (base.getD d.currentPath).parts, IsName n) :
    d.resolve (base.getD d.currentPath) = .ok ⟨.root, b⟩ :=
  hd.resolve_of_leads (hasNull_eq_false hb) h.ofBase

/-- The place where the output path leads is what is compared with the base. -/
theorem locate_of_lands (hd : d.WellFormed) (hn : d.WellNamed)
    (hb : ∀ n ∈ (base.getD d.currentPath).parts, IsName n)
    (hw : ∀ n ∈ (Path.ofString written).parts, IsName n) (h : Lands d written base b l) :
    locate d written base =
      if b <+: l then .ok ⟨.root, l⟩ else .error (.complaint (.outsideBase written)) := by
  have hbase := h.resolve_base hd hb
  have htarget : d.resolve ((⟨.root, b⟩ : Path).join (.ofString written)) = .ok ⟨.root, l⟩ := by
    have hnames : ∀ n ∈ b, IsName n := h.ofBase.isName hd hn hb
    refine hd.resolve_of_leads (hasNull_eq_false ?_) (h.ofBase.join hd h.ofTarget)
    exact isName_join hnames hw
  have hwithin : (⟨.root, l⟩ : Path).isWithin ⟨.root, b⟩ = true ↔ b <+: l := by
    rw [isWithin_iff]
    simp
  simp only [locate, hbase, htarget, bind, Except.bind, hwithin]
  rfl

theorem target_of_lands (hd : d.WellFormed)
    (hb : ∀ n ∈ (base.getD d.currentPath).parts, IsName n) (h : Lands d written base b l)
    (hstart : ∀ n ∈ (base.getD d.currentPath).parts, d.host.refuses n = false)
    (hnames : ∀ n ∈ b ++ (Path.ofString written).parts, d.host.refuses n = false) :
    target d written base = locate d written base := by
  have hjoin : ∀ n ∈ ((⟨.root, b⟩ : Path).join (.ofString written)).parts,
      d.host.refuses n = false := by
    rw [Path.join]
    split
    · exact hnames
    · exact fun n hn => hnames n (List.mem_append_right b hn)
  have hlands := resolution_eq_place.mpr (h.ofBase.join hd h.ofTarget)
  simp only [target, h.resolve_base hd hb, bind, Except.bind,
    probe_of_place (resolution_eq_place.mpr h.ofBase) hstart, probe_of_place hlands hjoin]

/-- A path that stands for its own place, and for the same output when it is given again. -/
structure Canonical (d : Disk) (base : Option Path) (p : Path) : Prop where
  root : p.anchor = .root
  plain : ∀ n ∈ p.parts, IsPlain n
  linkFree : d.LinkFree p.parts
  again : locate d p.text base = .ok p

theorem canonical_of_lands (hd : d.WellFormed) (hn : d.WellNamed)
    (hb : ∀ n ∈ (base.getD d.currentPath).parts, IsName n)
    (hw : ∀ n ∈ (Path.ofString written).parts, IsName n) (h : Lands d written base b l)
    (hp : b <+: l) : Canonical d base ⟨.root, l⟩ := by
  have hs : d.Settled l := h.ofTarget.settled hd
  have hnames : ∀ n ∈ l, IsName n := h.ofTarget.isName hd hn (isName_join hb hw)
  have htext : Path.ofString (⟨.root, l⟩ : Path).text = ⟨.root, l⟩ :=
    ofString_text fun n hm => ⟨(hnames n hm).1, (hnames n hm).2.1⟩
  have hself : Lands d (⟨.root, l⟩ : Path).text base b l := by
    refine ⟨h.ofBase, ?_⟩
    rw [htext]
    exact hs.leads
  refine ⟨rfl, hs.plain, hs.linkFree, ?_⟩
  rw [locate_of_lands hd hn hb (by rwa [htext]) hself, if_pos hp]

/-- The location that names say from a place, whatever is there. -/
def lexical (place : Location) (names : List String) : Location :=
  names.foldl (fun l name =>
    if name = "" ∨ name = "." then l else if name = ".." then l.dropLast else l ++ [name]) place

def spelled (place : Location) (text : String) : Location :=
  lexical (if text.toList.head? = some '/' then [] else place)
    ((Text.split '/' text.toList).map String.ofList)

theorem lexical_cons (place : Location) (name : String) (names : List String) :
    lexical place (name :: names) = lexical (if name = "" ∨ name = "." then place
      else if name = ".." then place.dropLast else place ++ [name]) names := rfl

theorem lexical_append (place : Location) (names rest : List String) :
    lexical place (names ++ rest) = lexical (lexical place names) rest := List.foldl_append

theorem lexical_filter (place : Location) (pieces : List (List Char)) :
    lexical place ((pieces.filter isPart).map String.ofList) =
      lexical place (pieces.map String.ofList) := by
  induction pieces generalizing place with
  | nil => rfl
  | cons piece pieces ih =>
    rw [List.map_cons, lexical_cons, List.filter_cons]
    split
    · rw [List.map_cons, lexical_cons, ih]
    · rename_i hp
      have hskip : String.ofList piece = "" ∨ String.ofList piece = "." := by
        by_cases he : piece = []
        · exact Or.inl (he ▸ rfl)
        · have hdot : piece = ['.'] := by simpa [isPart, he] using hp
          exact Or.inr (hdot ▸ rfl)
      rw [ih, if_pos hskip]

/-- Where there are no links, names lead where they say. -/
theorem leadsIn_lexical (hl : ∀ k, d.link? k = none) (place : Location) {names : List String}
    (hn : ∀ n ∈ names, IsName n) : d.LeadsIn 0 place names (lexical place names) := by
  induction names generalizing place with
  | nil => exact .arrive
  | cons name names ih =>
    obtain ⟨hname, hrest⟩ := List.forall_mem_cons.mp hn
    have hempty : name ≠ "" := by
      rintro rfl
      exact absurd hname.1 (by decide)
    rw [lexical_cons]
    by_cases hdot : name = "."
    · subst hdot
      exact .stay (ih place hrest)
    by_cases hdots : name = ".."
    · subst hdots
      exact .up (ih place.dropLast hrest)
    · rw [if_neg (by simp [hempty, hdot]), if_neg hdots]
      exact .enter ⟨hdot, hdots⟩ (hl _) (ih (place ++ [name]) hrest)

theorem leads_lexical (hl : ∀ k, d.link? k = none) {q : Path} (hq : ∀ n ∈ q.parts, IsName n) :
    d.Leads q (lexical (d.start q) q.parts) := ⟨0, leadsIn_lexical hl _ hq⟩

theorem leads_spelled (hl : ∀ k, d.link? k = none) {q : Path} (hq : ∀ n ∈ q.parts, IsName n)
    (hw : ∀ n ∈ (Path.ofString written).parts, IsName n) :
    d.Leads (q.join (.ofString written)) (spelled (lexical (d.start q) q.parts) written) := by
  have h := leads_lexical hl (isName_join hq hw)
  have hparts (place : Location) : lexical place (Path.ofString written).parts =
      lexical place ((Text.split '/' written.toList).map String.ofList) :=
    lexical_filter place _
  have hrelative : (Path.ofString written).anchor = .relative → written.toList.head? ≠ some '/' :=
    anchor_eq_relative.mp
  have habsolute : (Path.ofString written).anchor ≠ .relative → written.toList.head? = some '/' :=
    fun ha => not_not.mp (mt anchor_eq_relative.mpr ha)
  rw [spelled, ← hparts]
  generalize Path.ofString written = p at h hrelative habsolute ⊢
  obtain ⟨anchor, parts⟩ := p
  cases anchor with
  | relative =>
    rw [if_neg (hrelative rfl), ← lexical_append]
    exact h
  | root =>
    rw [if_pos (habsolute (by simp))]
    exact h
  | doubleRoot =>
    rw [if_pos (habsolute (by simp))]
    exact h

/-- An output path is accepted exactly if the place where it leads has the names of the base before
its own. What is returned then is the path of that place, which has no dots and no link on the way
and is returned when it is given again. Without links it is what the base and the text say, whether
or not anything is there. For names that the system can be asked for it is the target. -/
theorem locate_contained_iff (hd : d.WellFormed) (hn : d.WellNamed)
    (hb : ∀ n ∈ (base.getD d.currentPath).parts, IsName n) (hw : '\x00' ∉ written.toList) :
    (∀ b l, Lands d written base b l →
      (∀ p, locate d written base = .ok p ↔ b <+: l ∧ p = ⟨.root, l⟩) ∧
      (¬b <+: l → locate d written base = .error (.complaint (.outsideBase written))) ∧
      (b <+: l → Canonical d base ⟨.root, l⟩) ∧
      ((∀ n ∈ (base.getD d.currentPath).parts, d.host.refuses n = false) →
        (∀ n ∈ b ++ (Path.ofString written).parts, d.host.refuses n = false) →
        target d written base = locate d written base)) ∧
    ((∀ k, d.link? k = none) → ∀ b,
      b = lexical (d.start (base.getD d.currentPath)) (base.getD d.currentPath).parts →
      ∀ p, locate d written base = .ok p ↔
        b <+: spelled b written ∧ p = ⟨.root, spelled b written⟩) := by
  have hw' := isName_ofString hw
  have hlocate (b l : Location) (h : Lands d written base b l) (p : Path) :
      locate d written base = .ok p ↔ b <+: l ∧ p = ⟨.root, l⟩ := by
    rw [locate_of_lands hd hn hb hw' h]
    split
    · rename_i hp
      simp only [Except.ok.injEq, hp, true_and, eq_comm]
    · rename_i hp
      simp [hp]
  constructor
  · intro b l h
    refine ⟨hlocate b l h, fun hp => ?_, canonical_of_lands hd hn hb hw' h,
      target_of_lands hd hb h⟩
    rw [locate_of_lands hd hn hb hw' h, if_neg hp]
  · rintro hlinks b rfl
    exact hlocate _ _ ⟨leads_lexical hlinks hb, leads_spelled hlinks hb hw'⟩

/-- A disk with a link that leads out of the project. -/
def linkedDisk : Disk where
  entries := [(["data"], .directory), (["project"], .directory), (["project2"], .directory),
    (["project", "out"], .link "../data")]
  current := ["project"]

def plainDisk : Disk where
  entries := [(["project"], .directory)]
  current := ["project"]

theorem locate_contained_iff_linkedDisk :
    (linkedDisk.WellFormed ∧ linkedDisk.WellNamed ∧
      locate linkedDisk "a/../b" (some (.ofString "out")) = .ok ⟨.root, ["data", "b"]⟩ ∧
      Canonical linkedDisk (some (.ofString "out")) ⟨.root, ["data", "b"]⟩ ∧
      locate linkedDisk "../project2" none =
        .error (.complaint (.outsideBase "../project2"))) ∧
    (∀ k, plainDisk.link? k = none) ∧
      locate plainDisk "/project//x/./../y" none = .ok ⟨.root, ["project", "y"]⟩ := by
  have hd : linkedDisk.WellFormed := .of_entries (by decide) (by decide)
  have hn : linkedDisk.WellNamed := .of_entries (by decide)
  have hout : Lands linkedDisk "a/../b" (some (.ofString "out")) ["data"] ["data", "b"] :=
    ⟨resolution_eq_place.mp rfl, resolution_eq_place.mp rfl⟩
  have hsibling : Lands linkedDisk "../project2" none ["project"] ["project2"] :=
    ⟨resolution_eq_place.mp rfl, resolution_eq_place.mp rfl⟩
  have hplain : ∀ k, plainDisk.link? k = none := link?_eq_none (by decide)
  obtain ⟨h, -⟩ := @locate_contained_iff linkedDisk "a/../b" (some (.ofString "out")) hd hn
    (by decide) (by decide)
  obtain ⟨hp, -, hc, -⟩ := h _ _ hout
  obtain ⟨h', -⟩ := @locate_contained_iff linkedDisk "../project2" none hd hn (by decide)
    (by decide)
  obtain ⟨-, hrefused, -, -⟩ := h' _ _ hsibling
  obtain ⟨-, hl⟩ := @locate_contained_iff plainDisk "/project//x/./../y" none
    (.of_entries (by decide) (by decide)) (.of_entries (by decide)) (by decide) (by decide)
  exact ⟨⟨hd, hn, (hp _).mpr ⟨by decide, rfl⟩, hc (by decide), hrefused (by decide)⟩, hplain,
    (hl hplain _ rfl _).mpr ⟨by decide, rfl⟩⟩

end Output

end Scaffold
