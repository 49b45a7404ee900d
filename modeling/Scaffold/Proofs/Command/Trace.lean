import Scaffold.Proofs.Command.Printing

/-! # Traces

Traces are wanted for every command if a variable says so, or for one command if its arguments do.
The variable has no part in how arguments are read, and nothing that is made or written depends on
it. Only the report of a complaint gets longer.
-/

namespace Scaffold

def Complaint.trace (k : Complaint) : String :=
  "\nStack trace:\n" ++ (k.notice.message ++ "\n") ++ "\n"

theorem report_some (text trace : String) :
    report text (some trace) = report text none ++ ("\nStack trace:\n" ++ trace ++ "\n") := by
  have hsplit : "\n\nStack trace:\n" = "\n" ++ "\nStack trace:\n" := by decide
  simp only [report, hsplit, String.append_assoc]

namespace Command

open Arguments Output Scaffold.Action

variable {c : Context} {d : Disk} {arguments : List String} {j : Job}

def AsksForTrace (arguments : List String) : Prop :=
  (∃ g r, Generator.Reads g arguments r ∧ r.isSet "--debug" = true) ∨
    ∃ rest outer, arguments = Group.database.word :: rest ∧
      databaseGrammar.readKnown rest = .ok outer ∧ outer.isSet "--debug" = true

/-- The same job, with a trace also if traces are wanted for every command. -/
def Job.traced (debug : Bool) (j : Job) : Job := { j with trace := debug || j.trace }

theorem generate_traced (c : Context) (rest : List String) :
    generate c rest = Job.traced c.debug <$> generate { c with debug := false } rest := by
  rw [generate, generate]
  cases generateGrammar.read rest with
  | error s => rfl
  | ok outer =>
    cases hf : Generator.all.find? fun g => outer.word? "generator" = some g.word with
    | none => simp only [bind, Except.bind, hf]; rfl
    | some g =>
      simp only [bind, Except.bind, hf]
      cases g.grammar.read ((outer.words? "extra_args").getD []) <;> rfl

theorem database_traced (c : Context) (d : Disk) (rest : List String) :
    database c d rest = Job.traced c.debug <$> database { c with debug := false } d rest := by
  rw [database, database]
  cases databaseGrammar.readKnown rest with
  | error s => rfl
  | ok outer =>
    cases hf : Statement.all.find? fun s => outer.word? "action" = some s.word with
    | none => simp only [bind, Except.bind, hf]; rfl
    | some s =>
      simp only [bind, Except.bind, hf]
      cases s.grammar.readKnown (((outer.words? "action").getD []).drop 1) with
      | error s => rfl
      | ok r =>
        dsimp only
        cases databaseGrammar.settle { outer with strangers := outer.strangers ++ r.strangers } <;>
          rfl

/-- What is to be done does not depend on whether traces are wanted. -/
theorem job_traced (c : Context) (d : Disk) (arguments : List String) :
    job c d arguments = Job.traced c.debug <$> job { c with debug := false } d arguments := by
  have hmap (x : Except Stop Job) (f : Stop → Outcome) :
      (Job.traced c.debug <$> x).mapError f = Job.traced c.debug <$> x.mapError f := by
    cases x <;> rfl
  unfold job
  split
  · rfl
  split
  · rfl
  split
  · rfl
  split
  · rfl
  · rw [generate_traced, hmap]
  · rw [database_traced, hmap]

theorem trace_database {rest : List String} (h : database c d rest = .ok j) :
    ∃ outer, databaseGrammar.readKnown rest = .ok outer ∧
      j.trace = (c.debug || outer.isSet "--debug") := by
  obtain ⟨outer, ho, h⟩ := bind_eq_ok.mp h
  split at h
  · cases h
  obtain ⟨r, -, h⟩ := bind_eq_ok.mp h
  obtain ⟨-, -, h⟩ := bind_eq_ok.mp h
  cases h
  exact ⟨outer, ho, rfl⟩

theorem not_reads_database {g : Generator} {r : Reading} {rest : List String} :
    ¬ g.Reads (Group.database.word :: rest) r := by
  intro h
  generalize ha : Group.database.word :: rest = arguments at h
  cases h
  exact absurd (List.cons.inj ha).1 (by decide)

theorem trace_iff (h : job c d arguments = .ok j) (hc : c.debug = false) :
    j.trace = true ↔ AsksForTrace arguments := by
  obtain ⟨rest, rfl, hj⟩ | ⟨rest, rfl, hj⟩ := job_eq_ok.mp h
  · obtain ⟨g, r, hr, rfl⟩ := generate_eq_ok.mp hj
    rw [hc, Bool.false_or]
    refine ⟨fun hs => Or.inl ⟨g, r, hr, hs⟩, ?_⟩
    rintro (⟨g', r', hr', hs⟩ | ⟨rest', outer, hrest, -⟩)
    · have ht := congrArg Job.trace (Except.ok.inj (h.symm.trans (hr'.job_eq c d)))
      simpa [hc, hs] using ht
    · exact absurd (List.cons.inj hrest).1 (by decide)
  · obtain ⟨outer, ho, ht⟩ := trace_database hj
    rw [ht, hc, Bool.false_or]
    refine ⟨fun hs => Or.inr ⟨rest, outer, rfl, ho, hs⟩, ?_⟩
    rintro (⟨g, r, hr, -⟩ | ⟨rest', outer', hrest, ho', hs⟩)
    · exact absurd hr not_reads_database
    · cases hrest
      cases ho.symm.trans ho'
      exact hs

def Job.result (j : Job) (d : Disk) : Except Failure String × Disk :=
  match j.plan with
  | .error f => (.error f, d)
  | .ok plan => effect plan.carryOut d

def Outcome.ofResult (trace : Bool) : Except Failure String → Outcome
  | .ok text => .success text
  | .error f => .ofFailure trace f

theorem Job.run_eq (j : Job) (d : Disk) :
    j.run d = (.ofResult j.trace (j.result d).1, (j.result d).2) := by
  rw [Job.run, Job.result]
  cases j.plan with
  | error f => rfl
  | ok plan =>
    have hrun : plan.carryOut.run d = effect plan.carryOut d := rfl
    simp only [hrun]
    rcases effect plan.carryOut d with ⟨_ | _, d'⟩ <;> rfl

/-- Whether a command line comes to a complaint: about the input, or about where to write. -/
def Complains (c : Context) (arguments : List String) (d : Disk) (k : Complaint) : Prop :=
  ∃ j, job c d arguments = .ok j ∧ (j.result d).1 = .error k

theorem Outcome.ofResult_cases (r : Except Failure String) (trace : Bool) :
    (∃ k, r = .error (.complaint k) ∧ trace = false ∧
      (ofResult trace r).stderr = report k.notice.format none ∧
      ofResult true r = { ofResult trace r with stderr := (ofResult trace r).stderr ++ k.trace }) ∨
    (∀ k, r = .error (.complaint k) → trace = true) ∧ ofResult true r = ofResult trace r := by
  cases trace with
  | true => exact Or.inr ⟨fun _ _ => rfl, rfl⟩
  | false =>
    cases r with
    | ok text => exact Or.inr ⟨by rintro k ⟨⟩, rfl⟩
    | error f =>
      cases f with
      | fault f => exact Or.inr ⟨by rintro k ⟨⟩, rfl⟩
      | complaint k =>
        refine Or.inl ⟨k, rfl, rfl, rfl, ?_⟩
        simp only [ofResult, ofFailure, if_true, report_some]
        rfl

theorem Outcome.printed_stderr (o : Outcome) (stderr : String) (stdout : Text.Charset)
    (s : Text.StandIns) :
    { o with stderr := stderr }.printed stdout s =
      { o.printed stdout s with stderr := stderr } := by
  unfold printed
  dsimp only
  cases stdout.refusal? (s.points o.stdout) <;> rfl

theorem Outcome.stderr_printed (o : Outcome) (stdout : Text.Charset) (s : Text.StandIns) :
    (o.printed stdout s).stderr = o.stderr := by
  rw [printed]
  split <;> rfl

/-- The variable for traces, which counts as unset if it is empty, changes neither how a run ends,
nor what it prints, nor the disk. The report of a complaint ends with a trace, if the arguments do
not ask for one anyhow; no other report changes. -/
theorem execute_ofVariable {unset set : Option String} (hu : unset.getD "" = "")
    (hs : set.getD "" ≠ "") (now : Moment) (stdout : Text.Charset) (arguments : List String)
    (d : Disk) :
    let quiet := execute stdout (.ofVariable unset now) arguments d
    let loud := execute stdout (.ofVariable set now) arguments d
    let Complains := Complains (.ofVariable unset now) arguments d
    loud.1.ending = quiet.1.ending ∧ loud.1.stdout = quiet.1.stdout ∧ loud.2 = quiet.2 ∧
      (∀ k, Complains k → ¬ AsksForTrace arguments →
        quiet.1.stderr = report k.notice.format none ∧
          loud.1.stderr = quiet.1.stderr ++ k.trace) ∧
      ((∀ k, Complains k → AsksForTrace arguments) → loud.1.stderr = quiet.1.stderr) := by
  have hquiet : Context.ofVariable unset now = ⟨false, now⟩ := by simp [Context.ofVariable, hu]
  have hloud : Context.ofVariable set now = ⟨true, now⟩ := by simp [Context.ofVariable, hs]
  rw [hquiet, hloud, execute_eq, execute_eq, run, run, job_traced ⟨true, now⟩]
  dsimp only
  cases hj : job ⟨false, now⟩ d arguments with
  | error o =>
    refine ⟨rfl, rfl, rfl, ?_, fun _ => rfl⟩
    rintro k ⟨j, hj', -⟩
    cases hj.symm.trans hj'
  | ok j =>
    have hcomplains (k : Complaint) :
        Complains ⟨false, now⟩ arguments d k ↔ (j.result d).1 = .error (.complaint k) := by
      simp [Complains, hj]
    have hloud : (j.traced true).run d = (.ofResult true (j.result d).1, (j.result d).2) :=
      (j.traced true).run_eq d
    change _ = _ ∧ _
    simp only [Functor.map, Except.map, hloud, j.run_eq d, hcomplains, ← trace_iff hj rfl]
    rcases Outcome.ofResult_cases (j.result d).1 j.trace with
      ⟨k, hk, ht, hstderr, he⟩ | ⟨ht, he⟩
    · rw [he, Outcome.printed_stderr, Outcome.stderr_printed]
      refine ⟨rfl, rfl, trivial, fun k' hk' _ => ?_, fun h => ?_⟩
      · cases hk.symm.trans hk'
        exact ⟨hstderr, rfl⟩
      · exact absurd (h k hk) (by simp [ht])
    · rw [he]
      exact ⟨rfl, rfl, trivial, fun k hk hn => absurd (ht k hk) hn, fun _ => rfl⟩

theorem execute_ofVariable_fields :
    (none : Option String).getD "" = "" ∧ (some "1").getD "" ≠ "" ∧
      (execute .utf8 (.ofVariable none firstOfMay.now) ["gen", "freezed", "user"]
        loopDisk).1.stderr = report (Complaint.missing .fields).notice.format none ∧
      (execute .utf8 (.ofVariable (some "1") firstOfMay.now) ["gen", "freezed", "user"]
        loopDisk).1.stderr = report (Complaint.missing .fields).notice.format none ++
          (Complaint.missing .fields).trace := by
  have hu : (none : Option String).getD "" = "" := rfl
  have hs : (some "1").getD "" ≠ "" := by decide
  obtain ⟨-, -, -, hstderr, -⟩ :=
    execute_ofVariable hu hs firstOfMay.now .utf8 ["gen", "freezed", "user"] loopDisk
  have ho : generateGrammar.read ["freezed", "user"] =
      .ok ⟨[("generator", ["freezed"]), ("extra_args", ["user"])], [], []⟩ := by decide +kernel
  have hr : Generator.model.Reads ["gen", "freezed", "user"] ⟨[("name", ["user"])], [], []⟩ :=
    .intro ho (by decide +kernel) (by decide +kernel)
  have hj := hr.job_eq (.ofVariable none firstOfMay.now) loopDisk
  have hunasked : ¬ AsksForTrace ["gen", "freezed", "user"] :=
    mt (trace_iff hj rfl).mpr (by decide +kernel)
  obtain ⟨hquiet, hloud⟩ := hstderr (.missing .fields) ⟨_, hj, by decide +kernel⟩ hunasked
  exact ⟨hu, hs, hquiet, hquiet ▸ hloud⟩

end Command

end Scaffold
