import Scaffold.Proofs.Arguments.Reading
import Scaffold.Proofs.Command.Failure
import Scaffold.Proofs.Files.Output

/-! # What a run comes to

A run that ends in success prints to one stream and has written at most one file; any other run
reports to the other stream and leaves the disk alone. A file is written only when the arguments ask
for it.
-/

namespace Scaffold

def Disk.file? (d : Disk) (l : Location) : Option (List UInt8) :=
  match d.entry? l with
  | some (.file content) => some content
  | _ => none

theorem Output.Stores.file?_eq {d d' : Disk} {l k : Location} {content : List UInt8}
    (h : Stores d l content d') (hk : k ≠ l) : d'.file? k = d.file? k := by
  rw [Disk.file?, Disk.file?]
  rcases h.elsewhere k hk with he | ⟨hn, he⟩
  · rw [he]
  · rw [he, hn]

namespace Command

open Arguments Disk Scaffold.Action Output

open Failure (Unsettled)

open Text (Charset Unencodable encode)

variable {c : Context} {d d' d₁ : Disk} {arguments rest : List String} {o : Outcome} {j : Job}
  {r : Reading} {g : Generator} {f : Failure} {p : Path} {l : Location} {trace : Bool}
  {path text : String} {base : Option Path}

theorem stdout_ofFailure (trace : Bool) (f : Failure) :
    (Outcome.ofFailure trace f).stdout = "" := by
  cases f <;> rfl

theorem ending_ofFailure {code : Int} (h : (Outcome.ofFailure trace f).ending = .exit code) :
    code = 1 ∨ code = 2 ∨ code = 3 ∧ ¬ Unsettled f := by
  cases f with
  | fault f => cases h
  | complaint c =>
    have hc : c.notice.exitCode = code := Ending.exit.inj h
    subst hc
    rcases c.exitCode_cases with h | h | ⟨h, path, trouble, rfl⟩
    · exact Or.inl h
    · exact Or.inr (Or.inl h)
    · exact Or.inr (Or.inr ⟨h, fun hu => hu path trouble rfl⟩)

theorem ofStop_cases (s : Stop) (code : Char → ℕ) :
    (∃ text, Outcome.ofStop s code = .success text) ∨
      (Outcome.ofStop s code).ending = .exit 2 ∧ (Outcome.ofStop s code).stdout = "" := by
  cases s with
  | help g => exact Or.inl ⟨g.help, rfl⟩
  | problem g p => exact Or.inr ⟨rfl, rfl⟩

theorem job_eq_error (h : job c d arguments = .error o) :
    (∃ text, o = .success text) ∨ o.ending = .exit 2 ∧ o.stdout = "" := by
  unfold job at h
  split at h
  · cases h
    exact Or.inl ⟨overview, rfl⟩
  split at h
  · cases h
    exact Or.inl ⟨overview, rfl⟩
  split at h
  · cases h
    exact Or.inl ⟨_, rfl⟩
  split at h
  · cases h
    exact Or.inr ⟨rfl, rfl⟩
  all_goals
    obtain ⟨s, -, rfl⟩ := mapError_eq_error.mp h
    exact ofStop_cases s d.host.code

def GivesOutput (arguments : List String) : Prop :=
  ∃ rest, arguments = Group.generate.word :: rest ∧ Gives Generator.outputOption rest

/-- Whether a migration that creates a table is asked for and to be written. -/
def GivesWrite (arguments : List String) : Prop :=
  ∃ rest, arguments = Group.database.word :: rest ∧ Statement.createTable.word ∈ rest ∧
    ∃ a ∈ rest, Spells "--write".toList a.toList

theorem plain_generator (g : Generator) : g.grammar.Plain := by
  cases g <;> decide +kernel

theorem plain_statement (s : Statement) : s.grammar.Plain := by
  cases s <;> decide +kernel

theorem plain_generateGrammar : generateGrammar.Plain := by decide +kernel

theorem plain_databaseGrammar : databaseGrammar.Plain := by decide +kernel

theorem words?_of_word? {name word : String} (h : r.word? name = some word) :
    ∃ words, r.words? name = some words ∧ word ∈ words := by
  obtain ⟨words, hw, hh⟩ := Option.bind_eq_some_iff.mp h
  exact ⟨words, hw, List.mem_of_mem_head? hh⟩

/-- What is asked for by arguments that ask for something: nothing is written but by a generator
with an output file, or by a migration that is to be written. -/
inductive Asked (c : Context) (d : Disk) (arguments : List String) : Except Failure Plan → Prop
  | quiet {plan : Except Failure Plan} (hu : FailsOnly Unsettled plan)
      (hp : ∀ p, plan = .ok p → ∃ text, p = .print text) : Asked c d arguments plan
  | output {text path : String} (ho : GivesOutput arguments) :
      Asked c d arguments (.ok (.write path text none))
  | migration {r : Reading} (hw : GivesWrite arguments) (hr : r.isSet "--write" = true) :
      Asked c d arguments (createTablePlan c.now d r)

theorem Asked.givesWrite {plan : Except Failure Plan} (h : Asked c d arguments plan)
    (hu : ¬ FailsOnly Unsettled plan) : GivesWrite arguments := by
  cases h with
  | quiet hq => exact absurd hq hu
  | output => exact absurd (failsOnly_ok _) hu
  | migration hw => exact hw

theorem Asked.gives {plan : Except Failure Plan} (h : Asked c d arguments plan)
    (hp : plan = .ok (.write path text base)) : GivesOutput arguments ∨ GivesWrite arguments := by
  cases h with
  | quiet _ hq =>
    obtain ⟨shown, hs⟩ := hq _ hp
    cases hs
  | output ho => exact Or.inl ho
  | migration hw => exact Or.inr hw

theorem asked_generate (h : generate c rest = .ok j) :
    Asked c d (Group.generate.word :: rest) j.plan := by
  obtain ⟨outer, ho, h⟩ := bind_eq_ok.mp h
  split at h
  · cases h
  rename_i g _
  obtain ⟨r, hr, h⟩ := bind_eq_ok.mp h
  cases h
  have hou := g.unsettled_text c.now.date r
  change Asked c d _ (g.plan c.now.date r)
  rw [Generator.plan]
  cases ht : g.text c.now.date r with
  | error f => exact .quiet (failsOnly_error (hou f ht)) (by rintro p ⟨⟩)
  | ok text =>
    cases hp : r.word? "--output" with
    | none => exact .quiet (failsOnly_ok _) (by rintro p ⟨⟩; exact ⟨_, rfl⟩)
    | some path =>
      refine .output ⟨rest, rfl, ?_⟩
      have hs := Grammar.sourced_read (plain_generator g) hr
      obtain ⟨words, hw, -⟩ := words?_of_word? hp
      have hgives : Gives Generator.outputOption ((outer.words? "extra_args").getD []) := by
        refine hs.gives (o := Generator.outputOption) hw ?_ ?_
        · cases g <;> decide +kernel
        · cases g <;> decide +kernel
      obtain ⟨a, ha, hspell⟩ := hgives
      cases he : outer.words? "extra_args" with
      | none => simp [he] at ha
      | some extra =>
        rw [he, Option.getD_some] at ha
        have hsource := Grammar.sourced_read plain_generateGrammar ho
        exact ⟨a, hsource.mem_arguments he (by decide +kernel) ha, hspell⟩

theorem createTablePlan_eq_ok {now : Moment} {plan : Plan} :
    createTablePlan now d r = .ok plan ↔
      ∃ text, Sql.migration ((r.word? "name").getD "") (r.word? "--columns") = .ok text ∧
        (r.isSet "--write" = false ∧ plan = .print text ∨
          r.isSet "--write" = true ∧ ∃ project, Project.ofDirectory d none = .ok project ∧
            plan = .write (Project.migrationPath project ((r.word? "name").getD "") now).text text
              (project.map Project.root)) := by
  rw [createTablePlan]
  dsimp only
  rw [bind_eq_ok]
  refine exists_congr fun text => and_congr_right fun _ => ?_
  cases hw : r.isSet "--write" with
  | false => simp [pure, Except.pure, eq_comm]
  | true =>
    rw [if_pos rfl, bind_eq_ok]
    simp [pure, Except.pure, eq_comm]

theorem asked_database (h : database c d rest = .ok j) :
    Asked c d (Group.database.word :: rest) j.plan := by
  obtain ⟨outer, ho, h⟩ := bind_eq_ok.mp h
  split at h
  · cases h
  rename_i s hf
  obtain ⟨r, hr, h⟩ := bind_eq_ok.mp h
  obtain ⟨-, -, h⟩ := bind_eq_ok.mp h
  cases h
  cases s with
  | policies =>
    refine .quiet (unsettled_policiesPlan r) fun p hp => ?_
    obtain ⟨text, -, hp⟩ := bind_eq_ok.mp hp
    cases hp
    exact ⟨text, rfl⟩
  | createTable =>
    dsimp only
    cases hw : r.isSet "--write" with
    | false =>
      refine .quiet (unsettled_createTablePlan hw) fun p hp => ?_
      obtain ⟨text, -, ⟨-, rfl⟩ | ⟨hw', -⟩⟩ := createTablePlan_eq_ok.mp hp
      · exact ⟨text, rfl⟩
      · cases hw.symm.trans hw'
    | true =>
      refine .migration ⟨rest, rfl, ?_⟩ hw
      have hsource := Grammar.sourced_readKnown plain_databaseGrammar ho
      have hword : outer.word? "action" = some Statement.createTable.word := by
        simpa using List.find?_some hf
      obtain ⟨action, ha, hmem⟩ := words?_of_word? hword
      have hsub {w : String} (hw : w ∈ action) : w ∈ rest :=
        hsource.mem_arguments ha (by decide +kernel) hw
      refine ⟨hsub hmem, ?_⟩
      obtain ⟨words, hwords⟩ := Option.isSome_iff_exists.mp hw
      have hs := Grammar.sourced_readKnown (plain_statement .createTable) hr
      have hgives := hs.gives (o := ⟨["--write"], .flag,
        "Write a migration file into the Supabase migrations directory"⟩) hwords
        (by decide +kernel) (by decide +kernel)
      obtain ⟨a, ha', name, hname, hspell⟩ := hgives
      rw [List.mem_singleton] at hname
      subst hname
      rw [ha, Option.getD_some] at ha'
      exact ⟨a, hsub (List.mem_of_mem_drop ha'), hspell⟩

theorem job_eq_ok : job c d arguments = .ok j ↔
    (∃ rest, arguments = Group.generate.word :: rest ∧ generate c rest = .ok j) ∨
      ∃ rest, arguments = Group.database.word :: rest ∧ database c d rest = .ok j := by
  constructor
  · intro h
    unfold job at h
    split at h
    · cases h
    rename_i first rest
    split at h
    · cases h
    split at h
    · cases h
    split at h
    · cases h
    · rename_i hf
      have hw : Group.generate.word = first := by simpa using List.find?_some hf
      exact Or.inl ⟨rest, by rw [hw], mapError_eq_ok.mp h⟩
    · rename_i hf
      have hw : Group.database.word = first := by simpa using List.find?_some hf
      exact Or.inr ⟨rest, by rw [hw], mapError_eq_ok.mp h⟩
  · rintro (⟨rest, rfl, h⟩ | ⟨rest, rfl, h⟩)
    · exact mapError_eq_ok.mpr h
    · exact mapError_eq_ok.mpr h

theorem asked_job (h : job c d arguments = .ok j) : Asked c d arguments j.plan := by
  obtain ⟨rest, rfl, hj⟩ | ⟨rest, rfl, hj⟩ := job_eq_ok.mp h
  · exact asked_generate hj
  · exact asked_database hj

/-- What comes of a job. -/
inductive Job.Runs (j : Job) (d : Disk) : Outcome × Disk → Prop
  | refused {f : Failure} (h : j.plan = .error f) : Runs j d (.ofFailure j.trace f, d)
  | printed {text : String} (h : j.plan = .ok (.print text)) : Runs j d (.success text, d)
  | unwritten {path text : String} {base : Option Path} {f : Failure}
      (h : j.plan = .ok (.write path text base)) (hf : Unsettled f) :
      Runs j d (.ofFailure j.trace f, d)
  | written {path text : String} {base : Option Path} {p : Path} {l : Location} {d₁ : Disk}
      {content : List UInt8} (h : j.plan = .ok (.write path text base))
      (ht : target d path base = .ok p) (hc : encode (d.host.standIns.points text) = .ok content)
      (ho : Opens d p l d₁) :
      Runs j d (.success s!"Generated {p.text}\n", d₁.put l (.file content))
  | emptied {path text : String} {base : Option Path} {p : Path} {l : Location} {d₁ : Disk}
      {u : Unencodable} (h : j.plan = .ok (.write path text base))
      (ht : target d path base = .ok p) (hc : encode (d.host.standIns.points text) = .error u)
      (ho : Opens d p l d₁) : Runs j d (⟨.fault (.unencodable u), "", ""⟩, d₁.put l (.file []))

theorem effect_carryOut_write (path text : String) (base : Option Path) (d : Disk) :
    (Plan.write path text base).carryOut.run d =
      match effect (write path (d.host.standIns.points text) base) d with
      | (.ok p, d') => (.ok s!"Generated {p.text}\n", d')
      | (.error f, d') => (.error f, d') := by
  change effect (write path (d.host.standIns.points text) base >>= fun p =>
    pure s!"Generated {p.text}\n") d = _
  rw [effect_bind]
  rcases effect (write path (d.host.standIns.points text) base) d with ⟨_ | _, d'⟩ <;> rfl

theorem Job.runs_run (hd : d.WellFormed) (j : Job) : Runs j d (j.run d) := by
  rw [Job.run]
  split
  · exact .refused ‹_›
  rename_i plan hp
  cases plan with
  | print text => exact .printed hp
  | write path text base =>
    have hw := wrote_write hd path (d.host.standIns.points text) base
    have he (f : Failure) (d' : Disk)
        (h : effect (write path (d.host.standIns.points text) base) d = (.error f, d')) :
        Unsettled f := by
      rcases write_eq_error h with ⟨e, rfl⟩ | rfl
      · exact unsettled_fault e
      · rintro path trouble ⟨⟩
    rw [effect_carryOut_write]
    generalize effect (write path (d.host.standIns.points text) base) d = r at hw he ⊢
    cases hw with
    | failed => exact .unwritten hp (he _ _ rfl)
    | stored ht hc ho => exact .written hp ht hc ho
    | emptied ht hc ho => exact .emptied hp ht hc ho

structure Succeeded (d : Disk) (o : Outcome) (d' : Disk) : Prop where
  ending : o.ending = .exit 0
  stderr : o.stderr = ""
  files : ∃ l, ∀ k, k ≠ l → d'.file? k = d.file? k

structure Failed (d : Disk) (o : Outcome) (d' : Disk) : Prop where
  ending : o.ending ≠ .exit 0
  stdout : o.stdout = ""
  disk : d' = d

theorem succeeded_success (d : Disk) (text : String) : Succeeded d (.success text) d :=
  ⟨rfl, rfl, [], fun _ _ => rfl⟩

theorem failed_ofFailure (d : Disk) (trace : Bool) (f : Failure) :
    Failed d (.ofFailure trace f) d := by
  refine ⟨fun h => ?_, stdout_ofFailure trace f, rfl⟩
  have := ending_ofFailure h
  omega

/-- A run that broke off over a text that cannot be encoded: the text of its file, which is left
empty, or what it prints at its end. -/
inductive BrokeOff (stdout : Charset) (d : Disk) : Outcome × Disk → Prop
  | emptied {text : String} {u : Unencodable} {l : Location} {d' : Disk}
      (hc : encode (d.host.standIns.points text) = .error u) (hs : Stores d l [] d') :
      BrokeOff stdout d (⟨.fault (.unencodable u), "", ""⟩, d')
  | unprinted {o : Outcome} {u : Unencodable} {d' : Disk} (hs : Succeeded d o d')
      (hr : stdout.refusal? (d.host.standIns.points o.stdout) = some u) :
      BrokeOff stdout d (⟨.fault (.unencodable u), "", ""⟩, d')

theorem BrokeOff.ending_ne {stdout : Charset} (h : BrokeOff stdout d (o, d')) (code : Int) :
    o.ending ≠ .exit code := by
  cases h <;> simp

theorem Succeeded.printed (h : Succeeded d o d') (stdout : Charset) :
    Succeeded d (o.printed stdout d.host.standIns) d' ∨
      BrokeOff stdout d (o.printed stdout d.host.standIns, d') := by
  rw [Outcome.printed]
  split
  · exact Or.inl h
  · rename_i u hr
    rw [h.stderr]
    exact Or.inr (.unprinted h hr)

theorem printed_nil (ho : o.stdout = "") (stdout : Charset) (s : Text.StandIns) :
    o.printed stdout s = o := by
  rw [Outcome.printed, ho]
  rfl

/-- A job that is refused or whose output cannot be written fails, one whose text cannot be encoded
leaves an empty file, and every other one succeeds. -/
theorem Job.Runs.ends {r : Outcome × Disk} (h : Runs j d r) (stdout : Charset) :
    Succeeded d (r.1.printed stdout d.host.standIns) r.2 ∨
      Failed d (r.1.printed stdout d.host.standIns) r.2 ∨
      BrokeOff stdout d (r.1.printed stdout d.host.standIns, r.2) := by
  cases h with
  | refused | unwritten =>
    rw [printed_nil (stdout_ofFailure _ _)]
    exact Or.inr (Or.inl (failed_ofFailure d _ _))
  | printed => exact ((succeeded_success d _).printed stdout).imp_right Or.inr
  | @written _ _ _ p l d₁ content _ _ _ ho =>
    have hst := ho.stores content
    have hs : Succeeded d (.success s!"Generated {p.text}\n") (d₁.put l (.file content)) :=
      ⟨rfl, rfl, l, fun k hk => hst.file?_eq hk⟩
    exact (hs.printed stdout).imp_right Or.inr
  | emptied _ _ hc ho =>
    rw [printed_nil rfl]
    exact Or.inr (Or.inr (.emptied hc (ho.stores [])))

/-- A job that fails with the exit code of the settings has read them. -/
theorem Job.Runs.exitCode {code : Int} {r : Outcome × Disk} (h : Runs j d r)
    (hc : r.1.ending = .exit code) :
    code = 0 ∨ code = 1 ∨ code = 2 ∨ code = 3 ∧ ¬ FailsOnly Unsettled j.plan := by
  cases h with
  | refused h =>
    rcases ending_ofFailure hc with hc | hc | ⟨hc, hf⟩
    · exact Or.inr (Or.inl hc)
    · exact Or.inr (Or.inr (Or.inl hc))
    · exact Or.inr (Or.inr (Or.inr ⟨hc, fun hu => hf (hu _ h)⟩))
  | unwritten h hf =>
    rcases ending_ofFailure hc with hc | hc | ⟨hc, hn⟩
    · exact Or.inr (Or.inl hc)
    · exact Or.inr (Or.inr (Or.inl hc))
    · exact absurd hf hn
  | printed | written => exact Or.inl (Ending.exit.inj hc).symm
  | emptied => cases hc

theorem Job.Runs.plans_write {r : Outcome × Disk} (h : Runs j d r) (hn : r.2 ≠ d) :
    ∃ path text base, j.plan = .ok (.write path text base) := by
  cases h with
  | refused | printed | unwritten => exact absurd rfl hn
  | written h | emptied h => exact ⟨_, _, _, h⟩

theorem execute_eq (stdout : Charset) (c : Context) (arguments : List String) (d : Disk) :
    execute stdout c arguments d = ((run c arguments d).1.printed stdout d.host.standIns,
      (run c arguments d).2) := rfl

theorem ending_of_printed {code : Int} {stdout : Charset} {s : Text.StandIns}
    (h : (o.printed stdout s).ending = .exit code) : o.printed stdout s = o := by
  rw [Outcome.printed] at h ⊢
  split
  · rfl
  · rename_i hr
    rw [hr] at h
    cases h

/-- A run ends in success, with nothing to report and at most one file written, or it fails, with
nothing printed and the disk left alone, or it breaks off over a text that cannot be encoded. Its
exit code is at most three, and three only for a migration that is to be written. Files change only
where the arguments ask for it. -/
theorem execute_disciplined {stdout : Charset} (hd : d.WellFormed)
    (h : execute stdout c arguments d = (o, d')) :
    (Succeeded d o d' ∨ Failed d o d' ∨ BrokeOff stdout d (o, d')) ∧
      (∀ code, o.ending = .exit code →
        code ∈ ([0, 1, 2, 3] : List Int) ∧ (code = 3 → GivesWrite arguments)) ∧
      ∀ l, d'.file? l ≠ d.file? l → GivesOutput arguments ∨ GivesWrite arguments := by
  rw [execute_eq] at h
  cases h
  rw [run]
  cases hj : job c d arguments with
  | error outcome =>
    refine ⟨?_, fun code hc => ?_, fun l hl => absurd rfl hl⟩
    · rcases job_eq_error hj with ⟨text, rfl⟩ | ⟨he, ho⟩
      · exact ((succeeded_success d text).printed stdout).imp_right Or.inr
      · rw [printed_nil ho]
        exact Or.inr (Or.inl ⟨by simp [he], ho, rfl⟩)
    · rw [ending_of_printed hc] at hc
      have hcode : code = 0 ∨ code = 2 := by
        rcases job_eq_error hj with ⟨text, rfl⟩ | ⟨he, -⟩
        · exact Or.inl (Ending.exit.inj hc).symm
        · exact Or.inr (Ending.exit.inj (hc.symm.trans he))
      rcases hcode with rfl | rfl <;> simp
  | ok j =>
    have hr := j.runs_run hd
    have ha := asked_job hj
    refine ⟨hr.ends stdout, fun code hc => ?_, fun l hl => ?_⟩
    · rw [ending_of_printed hc] at hc
      rcases hr.exitCode hc with rfl | rfl | rfl | ⟨rfl, hu⟩
      · simp
      · simp
      · simp
      · exact ⟨by simp, fun _ => ha.givesWrite hu⟩
    · obtain ⟨path, text, base, hp⟩ := hr.plans_write fun he => hl (congrArg (file? · l) he)
      exact ha.gives hp

def firstOfMay : Context :=
  ⟨false, { date := ⟨2024, 5, 1⟩, hour := 12, minute := 30, second := 5 }⟩

theorem execute_disciplined_table : ∃ o d', loopDisk.WellFormed ∧
    execute .utf8 firstOfMay ["gen", "drift", "table", "t", "-c", "a:int", "-olib/t.dart"]
      loopDisk = (o, d') ∧
    Succeeded loopDisk o d' ∧ d'.file? ["project", "lib", "t.dart"] ≠ none ∧
    GivesOutput ["gen", "drift", "table", "t", "-c", "a:int", "-olib/t.dart"] := by
  have hrun : (execute .utf8 firstOfMay
      ["gen", "drift", "table", "t", "-c", "a:int", "-olib/t.dart"] loopDisk).1.ending = .exit 0 ∧
      (execute .utf8 firstOfMay ["gen", "drift", "table", "t", "-c", "a:int", "-olib/t.dart"]
        loopDisk).2.file? ["project", "lib", "t.dart"] ≠ none := by decide +kernel
  have hbefore : loopDisk.file? ["project", "lib", "t.dart"] = none := by decide
  generalize hr : execute .utf8 firstOfMay ["gen", "drift", "table", "t", "-c",
    "a:int", "-olib/t.dart"] loopDisk = r at hrun
  obtain ⟨o, d'⟩ := r
  obtain ⟨hexit, hfile⟩ := hrun
  obtain ⟨hends, -, hchange⟩ := execute_disciplined wellFormed_loopDisk hr
  have hs : Succeeded loopDisk o d' := hends.resolve_right fun h =>
    h.elim (fun hf => hf.ending hexit) fun hb => hb.ending_ne 0 hexit
  have hgives := hchange ["project", "lib", "t.dart"] (hbefore ▸ hfile)
  refine ⟨o, d', wellFormed_loopDisk, rfl, hs, hfile, hgives.resolve_right ?_⟩
  rintro ⟨rest, hrest, -⟩
  exact absurd (List.cons.inj hrest).1 (by decide)

/-- A column with a default that holds a surrogate: a byte of the arguments that is not UTF-8. -/
def strangeColumn : String :=
  "note:text:default(" ++ String.ofList [Text.StandIns.usual.char 0xDCFF] ++ ")"

/-- A migration with a surrogate in it cannot be encoded. The run fails, but there is an empty
file. -/
theorem execute_breaks_off : ∃ o d', loopDisk.WellFormed ∧
    execute .utf8 firstOfMay ["supabase", "create-table", "t", "-c", strangeColumn, "--write"]
      loopDisk = (o, d') ∧
    d'.file? ["project", "supabase", "migrations", "20240501123005_create_t_table.sql"] =
      some [] ∧
    ¬ Succeeded loopDisk o d' ∧ ¬ Failed loopDisk o d' := by
  have hrun : (execute .utf8 firstOfMay
      ["supabase", "create-table", "t", "-c", strangeColumn, "--write"] loopDisk).1.ending ≠
        .exit 0 ∧
      (execute .utf8 firstOfMay
        ["supabase", "create-table", "t", "-c", strangeColumn, "--write"] loopDisk).2.file?
          ["project", "supabase", "migrations", "20240501123005_create_t_table.sql"] =
        some [] := by decide +kernel
  have hbefore : loopDisk.file? ["project", "supabase", "migrations",
      "20240501123005_create_t_table.sql"] = none := by decide
  generalize hr : execute .utf8 firstOfMay ["supabase", "create-table", "t", "-c", strangeColumn,
    "--write"] loopDisk = r at hrun
  obtain ⟨o, d'⟩ := r
  obtain ⟨hexit, hfile⟩ := hrun
  refine ⟨o, d', wellFormed_loopDisk, rfl, hfile, fun h => hexit h.ending, fun h => ?_⟩
  rw [h.disk, hbefore] at hfile
  cases hfile

end Command

end Scaffold
