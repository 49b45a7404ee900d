import Scaffold.Proofs.Project.Root
import Scaffold.Proofs.Text.Utf8
import Scaffold.Proofs.Yaml.Document

/-! # Loading settings

What keeps a project from being loaded is told with the path of its settings file, a hint, and the
exit code of the settings, unless it is found where nothing is told: in the path itself, in the
bytes of the file, in what its document writes, or in a setting that cannot be written as a text.
-/

namespace Scaffold.Project

open Disk

variable {α β : Type} {d : Disk} {h : Host} {p : Path} {content : List UInt8} {g : Yaml.Graph}

structure Tells (p : Path) (c : Complaint) : Prop where
  exitCode : c.notice.exitCode = ExitCode.settings.toNat
  kind : c.notice.kind = .settings (some p.text)
  hint : ∃ hint, c.notice.hint = some hint ∧ hint ≠ ""

/-- What loading a settings file ought to come to. -/
inductive Settles (p : Path) : Except Failure Project → Prop
  | loaded (project : Project) : Settles p (.ok project)
  | told {c : Complaint} (h : Tells p c) : Settles p (.error c)

/-- A fault that is not told: of the path, of the bytes of the file, of its document, or of a value
that cannot be written. -/
inductive Untold : Fault → Prop
  | unencodable (e : Text.Unencodable) : Untold (.unencodable e)
  | nullInPath : Untold .nullInPath
  | malformedUtf8 (m : Text.Malformed) : Untold (.malformedUtf8 m)
  | blamed {f : Fault} (h : Yaml.Blamed f) : Untold f
  | longNumber : Untold .longNumber

/-- A text in UTF-8 that the reader of documents takes, or else finds malformed. -/
structure Legible (h : Host) (content : List UInt8) (text : String) : Prop where
  bytes : content = text.toUTF8.toList
  shallow : h.isTooDeep text.toList = false
  sound : ∀ f, Yaml.load h.standIns (Text.normalizeNewlines text.toList) ≠ .error (.fault f)

/-- Whether a setting has a text, as far as it is there and satisfies `q`. -/
def Writes (h : Host) (v : Option Value) (q : Value → Bool) : Prop :=
  ∀ w, v.filter q = some w → ∃ text, h.write w = .ok text

/-- The settings of two sections have texts, as far as they are looked at: none is once one before
it is found to be of no use. -/
structure Writable (h : Host) (shown : String) (g : Yaml.Graph) (project database : Option ℕ) :
    Prop where
  name : Writes h (setting? g project "name") (!·.isNull)
  kind : (∃ name, nameOf h shown (setting? g project "name") = .ok name) →
    Writes h (setting? g project "type") fun _ => true
  databasePath : (∃ name, nameOf h shown (setting? g project "name") = .ok name) →
    (∃ kind, kindOf h shown (setting? g project "type") = .ok kind) →
    Writes h (setting? g database "path") Value.isTruthy

/-- Nothing is wrong with a settings file that is not told: its path can be one of a file, and what
is read from there, if anything, is legible and gives settings that have texts. -/
structure Clear (d : Disk) (p : Path) : Prop where
  path : d.host.pathFault? p = none
  legible : ∀ content, d.readFile p = .ok content → ∃ text, Legible d.host content text
  writable : ∀ content g project database, d.readFile p = .ok content →
    readGraph d.host p.text content = .ok g → sections g = .ok (project, database) →
    Writable d.host p.text g project database

/-- A step in loading a settings file that comes to a fault exactly if something is not `clear`. -/
inductive Tried (p : Path) (clear : Prop) : Except Failure α → Prop
  | done {a : α} (h : clear) : Tried p clear (.ok a)
  | told {c : Complaint} (ht : Tells p c) (h : clear) : Tried p clear (.error c)
  | fault {f : Fault} (hu : Untold f) (h : ¬ clear) : Tried p clear (.error (.fault f))

namespace Tried

variable {x : Except Failure α} {clear clear' : Prop}

theorem of_iff (hx : Tried p clear x) (hc : clear ↔ clear') : Tried p clear' x :=
  propext hc ▸ hx

/-- A step after another one matters as far as the other one has a result. -/
theorem bind {f : α → Except Failure β} {after : α → Prop} (hx : Tried p clear x)
    (hf : ∀ a, x = .ok a → Tried p (after a) (f a)) :
    Tried p (clear ∧ ∀ a, x = .ok a → after a) (x >>= f) := by
  cases hx with
  | @done a h =>
    refine (hf a rfl).of_iff ⟨fun ha => ⟨h, ?_⟩, fun hall => hall.2 a rfl⟩
    rintro b ⟨⟩
    exact ha
  | told ht h => exact .told ht ⟨h, by rintro a ⟨⟩⟩
  | fault hu h => exact .fault hu fun hc => h hc.1

end Tried

theorem tells_settings (p : Path) (t : SettingsTrouble) : Tells p (.settings p.text t) := by
  refine ⟨rfl, rfl, t.hint, rfl, ?_⟩
  cases t <;> rw [SettingsTrouble.hint] <;> decide

theorem tried_ok (a : α) : Tried p True (.ok a : Except Failure α) := .done trivial

theorem tried_told (x : Except SettingsTrouble α) : Tried p True (told p.text x) := by
  cases x with
  | ok a => exact .done trivial
  | error t => exact .told (tells_settings p t) trivial

theorem write_untold {v : Value} {f : Fault} (hf : h.write v = .error f) : Untold f := by
  rw [Host.write] at hf
  split at hf
  · cases hf
    exact .blamed .exhausted
  split at hf
  · cases hf
  · cases hf
    exact .longNumber

theorem tried_written (v : Option Value) (q : Value → Bool) :
    Tried p (Writes h v q) (written h v q) := by
  rw [written, Writes]
  cases v.filter q with
  | none => exact .done (by rintro w ⟨⟩)
  | some w =>
    simp only [Option.some_inj, forall_eq']
    cases hw : h.write w with
    | ok text => exact .done ⟨text, rfl⟩
    | error f => exact .fault (write_untold hw) (by simp)

theorem tried_nameOf (v : Option Value) :
    Tried p (Writes h v (!·.isNull)) (nameOf h p.text v) :=
  ((tried_written v _).bind fun name _ => (tried_told (checkName name)).bind fun _ _ =>
    tried_ok name).of_iff (by simp)

theorem tried_kindOf (v : Option Value) :
    Tried p (Writes h v fun _ => true) (kindOf h p.text v) :=
  ((tried_written v _).bind fun kind _ => (tried_told (checkKind _)).bind fun _ _ =>
    tried_ok (kind.getD defaultKind)).of_iff (by simp)

theorem tried_databasePathOf (v : Option Value) :
    Tried p (Writes h v Value.isTruthy) (databasePathOf h v) :=
  ((tried_written v _).bind fun path _ => tried_ok (path.getD defaultDatabasePath)).of_iff (by simp)

theorem tried_ofGraph (place : Path) (g : Yaml.Graph) :
    Tried p (∀ project database, sections g = .ok (project, database) →
      Writable h p.text g project database) (ofGraph h p.text place g) := by
  have hsettings (parts : Option ℕ × Option ℕ) :=
    (tried_nameOf (h := h) (p := p) (setting? g parts.1 "name")).bind fun name _ =>
      (tried_kindOf (h := h) (p := p) (setting? g parts.1 "type")).bind fun kind _ =>
        (tried_databasePathOf (h := h) (p := p) (setting? g parts.2 "path")).bind fun path _ =>
          tried_ok (p := p) ({ path := place, name, kind, databasePath := path } : Project)
  refine ((tried_told (sections g)).bind fun parts _ => hsettings parts).of_iff ?_
  rw [true_and]
  constructor
  · intro hall project database hs
    obtain ⟨hname, hrest⟩ := hall _ (mapError_eq_ok.mpr hs)
    exact ⟨hname, fun ⟨name, hn⟩ => (hrest name hn).1,
      fun ⟨name, hn⟩ ⟨kind, hk⟩ => ((hrest name hn).2 kind hk).1⟩
  · rintro hall ⟨project, database⟩ hs
    obtain ⟨hname, hkind, hpath⟩ := hall project database (mapError_eq_ok.mp hs)
    exact ⟨hname, fun name hn => ⟨hkind ⟨name, hn⟩, fun kind hk =>
      ⟨hpath ⟨name, hn⟩ ⟨kind, hk⟩, fun _ _ => trivial⟩⟩⟩

theorem tried_readGraph (content : List UInt8) :
    Tried p (∃ text, Legible h content text) (readGraph h p.text content) := by
  rw [readGraph]
  cases hcs : Text.decodeUtf8 content with
  | error m =>
    refine .fault (.malformedUtf8 m) ?_
    rintro ⟨text, htext, -⟩
    rw [← String.ofList_toList (s := text), ← Text.decodeUtf8_eq_ok, hcs] at htext
    cases htext
  | ok cs =>
    have hcontent : content = (String.ofList cs).toUTF8.toList := Text.decodeUtf8_eq_ok.mp hcs
    have hlegible : (∃ text, Legible h content text) ↔ h.isTooDeep cs = false ∧
        ∀ f, Yaml.load h.standIns (Text.normalizeNewlines cs) ≠ .error (.fault f) := by
      constructor
      · rintro ⟨text, htext, hdeep, hsound⟩
        rw [← String.ofList_toList (s := text), ← Text.decodeUtf8_eq_ok, hcs] at htext
        cases htext
        exact ⟨hdeep, hsound⟩
      · rintro ⟨hdeep, hsound⟩
        exact ⟨String.ofList cs, hcontent, by rwa [String.toList_ofList],
          by rwa [String.toList_ofList]⟩
    refine Tried.of_iff ?_ hlegible.symm
    dsimp only
    split
    · rename_i hdeep
      exact .fault (.blamed .exhausted) fun hc => by simp [hc.1] at hdeep
    rename_i hdeep
    rw [Bool.not_eq_true] at hdeep
    cases hload : Yaml.load h.standIns (Text.normalizeNewlines cs) with
    | ok g => exact .done ⟨hdeep, by simp⟩
    | error t =>
      cases Yaml.ofDocument_load _ _ t hload with
      | malformed => exact .told (tells_settings p _) ⟨hdeep, by simp⟩
      | fault hf => exact .fault (.blamed hf) fun hc => hc.2 _ rfl

theorem exists_resolve (hd : d.WellFormed) (hn : hasNull p = false)
    (h : d.readFile p = .ok content) : ∃ resolved, d.resolve p = .ok resolved := by
  rw [readFile] at h
  split at h
  · rename_i l content' hfind
    exact ⟨_, hd.resolve_of_find hn hfind⟩
  all_goals cases h

theorem tried_load (hd : d.WellFormed) (p : Path) : Tried p (Clear d p) (load d p) := by
  rw [load]
  cases hpath : d.host.pathFault? p with
  | some f =>
    have hu : Untold f := by
      rw [Host.pathFault?] at hpath
      split at hpath
      · cases hpath
        exact .unencodable _
      · split at hpath
        · cases hpath
          exact .nullInPath
        · cases hpath
    refine .fault hu fun hc => ?_
    cases hpath.symm.trans hc.path
  | none =>
    have hn := hasNull_of_pathFault? hpath
    have hread : Tried p True ((d.readFile p).mapError fun e =>
        Failure.complaint (.settings p.text (.unreadable (e.message p.text d.host.code)))) := by
      cases d.readFile p with
      | ok content => exact .done trivial
      | error e => exact .told (tells_settings p _) trivial
    have hgraph (content : List UInt8) (hc : d.readFile p = .ok content) (g : Yaml.Graph) :
        Tried p (∀ project database, sections g = .ok (project, database) →
          Writable d.host p.text g project database)
          (d.resolve p >>= fun place => ofGraph d.host p.text place g) := by
      obtain ⟨place, hplace⟩ := exists_resolve hd hn hc
      rw [hplace]
      exact tried_ofGraph place g
    refine (hread.bind fun content hc => (tried_readGraph content).bind fun g _ =>
      hgraph content (mapError_eq_ok.mp hc) g).of_iff ?_
    simp only [true_and, mapError_eq_ok]
    constructor
    · intro hall
      exact ⟨hpath, fun content hc => (hall content hc).1,
        fun content g project database hc hg => (hall content hc).2 g hg project database⟩
    · intro hclear content hc
      exact ⟨hclear.legible content hc, fun g hg project database =>
        hclear.writable content g project database hc hg⟩

/-- Loading settings comes to a project, or to a complaint that names the settings file and has a
hint and the exit code of the settings, if and only if the path can be one of a file, what is read
from there, if anything, is a text in UTF-8 that the reader of documents does not give up on, and
the settings in it that are looked at can be written. What it comes to otherwise is a fault of the
path, of the bytes, of the document or of a setting. -/
theorem load_settles_iff (hd : d.WellFormed) (p : Path) :
    (Settles p (load d p) ↔ Clear d p) ∧
      (Settles p (load d p) ∨ ∃ f, load d p = .error (.fault f) ∧ Untold f) := by
  have ht := tried_load hd p
  generalize load d p = x at ht
  cases ht with
  | done hc => exact ⟨iff_of_true (.loaded _) hc, Or.inl (.loaded _)⟩
  | told ht hc => exact ⟨iff_of_true (.told ht) hc, Or.inl (.told ht)⟩
  | fault hu hc => exact ⟨iff_of_false (by rintro ⟨⟩) hc, Or.inr ⟨_, rfl, hu⟩⟩

/-- A disk with settings that are no text, and with settings that name a project. -/
def settingsDisk : Disk where
  entries := [(["project"], .directory), (["project", "saas.yaml"], .file [0xFF]),
    (["project", "saas.yml"], .file "project:\n  name: app\n".toUTF8.toList)]
  current := ["project"]

theorem wellFormed_settingsDisk : settingsDisk.WellFormed := .of_entries (by decide) (by decide)

theorem load_settles_iff_app : settingsDisk.WellFormed ∧
    load settingsDisk (.ofString "saas.yml") =
      .ok { path := ⟨.root, ["project", "saas.yml"]⟩, name := some "app" } ∧
    Clear settingsDisk (.ofString "saas.yml") := by
  have hload : load settingsDisk (.ofString "saas.yml") =
      .ok { path := ⟨.root, ["project", "saas.yml"]⟩, name := some "app" } := by decide +kernel
  obtain ⟨hiff, -⟩ := load_settles_iff wellFormed_settingsDisk (.ofString "saas.yml")
  exact ⟨wellFormed_settingsDisk, hload, hiff.mp (hload ▸ .loaded _)⟩

/-- A byte that starts no text is not told. -/
theorem load_escapes : settingsDisk.WellFormed ∧
    load settingsDisk (.ofString "saas.yaml") =
      .error (.fault (.malformedUtf8 ⟨0xFF, 0, 0, .startByte⟩)) ∧
    ¬ Settles (.ofString "saas.yaml") (load settingsDisk (.ofString "saas.yaml")) := by
  have hload : load settingsDisk (.ofString "saas.yaml") =
      .error (.fault (.malformedUtf8 ⟨0xFF, 0, 0, .startByte⟩)) := by decide +kernel
  refine ⟨wellFormed_settingsDisk, hload, fun h => ?_⟩
  rw [hload] at h
  cases h

end Scaffold.Project
