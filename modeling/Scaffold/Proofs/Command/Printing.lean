import Scaffold.Proofs.Command.Confinement
import Scaffold.Proofs.Files.Content

/-! # Printing and writing

A generator prints its text, or it writes it to a file, and so does the statement that creates a
table. Command lines that are read alike but for the option that asks for the file come to the same
text: what one of them writes, the other one prints.
-/

namespace Scaffold

namespace Arguments.Reading

variable {r r' : Reading} {name other : String}

/-- Whether two readings tell the same of every option and slot but one. -/
def AgreeBut (name : String) (r r' : Reading) : Prop :=
  ∀ other, other ≠ name → r'.words? other = r.words? other

theorem agreeBut_put (r : Reading) (name : String) (words : List String) :
    r.AgreeBut name (r.put name words) := by
  intro other hn
  simp [words?, put, hn.symm]

theorem AgreeBut.word? (h : r.AgreeBut name r') (hn : other ≠ name) :
    r'.word? other = r.word? other := by
  rw [Reading.word?, Reading.word?, h other hn]

theorem AgreeBut.isBlank (h : r.AgreeBut name r') (hn : other ≠ name) :
    r'.isBlank other = r.isBlank other := by
  rw [Reading.isBlank, Reading.isBlank, h other hn]

end Arguments.Reading

namespace Command

open Arguments Disk Output

variable {c : Context} {d : Disk} {arguments arguments' rest : List String} {j : Job}
  {r r' : Reading} {g : Generator} {today : Date} {path text : String} {plan : Plan}

inductive Generator.Reads (g : Generator) : List String → Reading → Prop
  | intro {rest : List String} {outer r : Reading} (ho : generateGrammar.read rest = .ok outer)
      (hg : outer.word? "generator" = some g.word)
      (hr : g.grammar.read ((outer.words? "extra_args").getD []) = .ok r) :
      Reads g (Group.generate.word :: rest) r

inductive Statement.Reads (s : Statement) : List String → Reading → Prop
  | intro {rest : List String} {outer r : Reading}
      (ho : databaseGrammar.readKnown rest = .ok outer)
      (hs : outer.word? "action" = some s.word)
      (hr : s.grammar.readKnown (((outer.words? "action").getD []).drop 1) = .ok r)
      (hn : outer.strangers ++ r.strangers = []) : Reads s (Group.database.word :: rest) r

theorem Generator.find?_word (g : Generator) :
    all.find? (fun g' => some g.word = some g'.word) = some g := by
  cases g <;> decide +kernel

theorem generate_eq_ok : generate c rest = .ok j ↔ ∃ g r,
    Generator.Reads g (Group.generate.word :: rest) r ∧
      j = ⟨c.debug || r.isSet "--debug", g.plan c.now.date r⟩ := by
  constructor
  · intro h
    obtain ⟨outer, ho, h⟩ := bind_eq_ok.mp h
    split at h
    · cases h
    rename_i g hf
    obtain ⟨r, hr, h⟩ := bind_eq_ok.mp h
    cases h
    exact ⟨g, r, .intro ho (by simpa using List.find?_some hf) hr, rfl⟩
  · rintro ⟨g, r, ⟨ho, hg, hr⟩, rfl⟩
    rw [generate, ho]
    simp only [bind, Except.bind, hg, g.find?_word, hr]
    rfl

theorem Generator.Reads.job_eq (h : g.Reads arguments r) (c : Context) (d : Disk) :
    job c d arguments = .ok ⟨c.debug || r.isSet "--debug", g.plan c.now.date r⟩ := by
  cases h with
  | intro ho hg hr =>
    exact job_eq_ok.mpr (Or.inl ⟨_, rfl, generate_eq_ok.mpr ⟨g, r, .intro ho hg hr, rfl⟩⟩)

theorem Generator.Reads.run_eq (h : g.Reads arguments r) (c : Context) (d : Disk) :
    ∃ trace, run c arguments d = Job.run ⟨trace, g.plan c.now.date r⟩ d :=
  ⟨_, by rw [run, h.job_eq c d]⟩

theorem Statement.Reads.run_eq (h : createTable.Reads arguments r) (c : Context) (d : Disk) :
    ∃ trace, run c arguments d = Job.run ⟨trace, createTablePlan c.now d r⟩ d := by
  obtain ⟨ho, hs, hr, hn⟩ := h
  rename_i rest outer
  have hf : all.find? (fun s => some createTable.word = some s.word) = some createTable := by
    decide +kernel
  have hdb : database c d rest =
      .ok ⟨c.debug || outer.isSet "--debug", createTablePlan c.now d r⟩ := by
    rw [database, ho]
    simp only [bind, Except.bind, hs, hf, hr, Grammar.settle, hn, if_true]
    rfl
  exact ⟨_, by rw [run, job_eq_ok.mpr (Or.inr ⟨rest, rfl, hdb⟩)]⟩

/-- What a generator makes does not depend on where it goes. -/
theorem Generator.text_agree (h : r.AgreeBut "--output" r') (g : Generator) (today : Date) :
    g.text today r' = g.text today r := by
  have hw (other : String) (hn : other ≠ "--output") : r'.word? other = r.word? other := h.word? hn
  have hb (other : String) (hn : other ≠ "--output") : r'.isBlank other = r.isBlank other :=
    h.isBlank hn
  cases g <;> simp (disch := decide) only [text, hw, hb]

theorem Generator.plan_eq_ok : g.plan today r = .ok plan ↔ ∃ text, g.text today r = .ok text ∧
    (r.word? "--output" = none ∧ plan = .print (g.printed text) ∨
      ∃ path, r.word? "--output" = some path ∧
        plan = .write (Path.ofString path).text text none) := by
  rw [Generator.plan, bind_eq_ok]
  refine exists_congr fun text => and_congr_right fun _ => ?_
  cases r.word? "--output" <;> simp [pure, Except.pure, eq_comm]

theorem Job.run_print (h : j.plan = .ok (.print text)) (d : Disk) :
    j.run d = (.success text, d) := by
  rw [Job.run, h]
  rfl

/-- The run ends in success and tells of a path, under which its disk has a text. -/
structure Delivers (result : Outcome × Disk) (p : Path) (text : String) : Prop where
  told : result.1 = .success s!"Generated {p.text}\n"
  held : result.2.readFile p = .ok text.toUTF8.toList

theorem Job.delivers (hd : d.WellFormed) (hp : ∀ shown, j.plan ≠ .ok (.print shown))
    (he : (j.run d).1.ending = .exit 0) :
    ∃ path text base p, j.plan = .ok (.write path text base) ∧ locate d path base = .ok p ∧
      Delivers (j.run d) p text := by
  have hr := j.runs_run hd
  generalize j.run d = result at hr he ⊢
  cases hr with
  | refused | unwritten => exact absurd he (failed_ofFailure d _ _).ending
  | printed h => exact absurd h (hp _)
  | emptied => cases he
  | written h ht hc ho =>
    obtain ⟨-, -, hl⟩ := target_eq_ok.mp ht
    rw [Text.encode_points_eq_ok hc]
    exact ⟨_, _, _, _, h, hl, rfl, readFile_put ho.spot _⟩

/-- What a generator writes is what it prints without an output file, up to one line end. -/
theorem Generator.Reads.delivers (hd : d.WellFormed) (h : g.Reads arguments r)
    (h' : g.Reads arguments' r') (hagree : r.AgreeBut "--output" r')
    (hnone : r.word? "--output" = none) (hsome : r'.word? "--output" = some path)
    (he : (run c arguments' d).1.ending = .exit 0) :
    ∃ text p, run c arguments d =
        (.success (text ++ if g = .drift then "\n" else ""), d) ∧
      d.resolve (d.currentPath.join (.ofString path)) = .ok p ∧
      Delivers (run c arguments' d) p text := by
  obtain ⟨trace, hrun⟩ := h.run_eq c d
  obtain ⟨trace', hrun'⟩ := h'.run_eq c d
  rw [hrun'] at he ⊢
  have hwrite {plan : Plan} (hp : g.plan c.now.date r' = .ok plan) : ∃ text,
      g.text c.now.date r = .ok text ∧ plan = .write (Path.ofString path).text text none := by
    obtain ⟨text, ht, ⟨hn, -⟩ | ⟨path', hs, rfl⟩⟩ := Generator.plan_eq_ok.mp hp
    · cases hsome.symm.trans hn
    · cases hsome.symm.trans hs
      exact ⟨text, g.text_agree hagree c.now.date ▸ ht, rfl⟩
  obtain ⟨_, text, _, p, hplan, hl, hdelivers⟩ := Job.delivers hd (fun shown hp => by
    obtain ⟨_, -, hp⟩ := hwrite hp
    cases hp) he
  obtain ⟨_, ht, hw⟩ := hwrite hplan
  cases hw
  refine ⟨text, p, ?_, resolve_of_locate hd hl, hdelivers⟩
  rw [hrun, Job.run_print (Generator.plan_eq_ok.mpr ⟨text, ht, Or.inl ⟨hnone, rfl⟩⟩)]
  cases g <;> simp [Generator.printed]

/-- The migration that is written is what is printed otherwise, by any clock and on any disk. -/
theorem Statement.Reads.delivers (hd : d.WellFormed) (h : createTable.Reads arguments r)
    (h' : createTable.Reads arguments' r') (hagree : r.AgreeBut "--write" r')
    (hunset : r.isSet "--write" = false) (hset : r'.isSet "--write" = true)
    (he : (run c arguments' d).1.ending = .exit 0) :
    ∃ text p project, (∀ c₀ d₀, run c₀ arguments d₀ = (.success text, d₀)) ∧
      Project.ofDirectory d none = .ok project ∧
      locate d (Project.migrationPath project ((r.word? "name").getD "") c.now).text
        (project.map Project.root) = .ok p ∧
      Delivers (run c arguments' d) p text := by
  obtain ⟨trace', hrun'⟩ := h'.run_eq c d
  rw [hrun'] at he ⊢
  have hwrite {plan : Plan} (hp : createTablePlan c.now d r' = .ok plan) : ∃ text project,
      Sql.migration ((r.word? "name").getD "") (r.word? "--columns") = .ok text ∧
        Project.ofDirectory d none = .ok project ∧
        plan = .write (Project.migrationPath project ((r.word? "name").getD "") c.now).text text
          (project.map Project.root) := by
    rw [createTablePlan_eq_ok, hagree.word? (by decide), hagree.word? (by decide)] at hp
    obtain ⟨text, ht, ⟨hn, -⟩ | ⟨-, project, hproject, hp⟩⟩ := hp
    · cases hset.symm.trans hn
    · exact ⟨text, project, ht, hproject, hp⟩
  obtain ⟨_, text, _, p, hplan, hl, hdelivers⟩ := Job.delivers hd (fun shown hp => by
    obtain ⟨_, _, -, -, hp⟩ := hwrite hp
    cases hp) he
  obtain ⟨_, project, ht, hproject, hw⟩ := hwrite hplan
  cases hw
  refine ⟨text, p, project, fun c₀ d₀ => ?_, hproject, hl, hdelivers⟩
  obtain ⟨trace, hrun⟩ := h.run_eq c₀ d₀
  rw [hrun, Job.run_print (createTablePlan_eq_ok.mpr ⟨text, ht, Or.inl ⟨hunset, rfl⟩⟩)]

/-- A run with an exit code has printed what it had to print. -/
theorem execute_eq_run {stdout : Text.Charset} {code : Int}
    (h : (execute stdout c arguments d).1.ending = .exit code) :
    execute stdout c arguments d = run c arguments d :=
  Prod.ext (ending_of_printed h) rfl

/-- A run that writes a file and ends in success leaves there what the run without the option for
the file prints, which ends in success as well. Only of code for the local database one more line
end is printed. What a migration prints depends neither on the clock nor on the disk. -/
theorem file_holds_stdout {stdout : Text.Charset} (hd : d.WellFormed)
    (he : (execute stdout c arguments' d).1.ending = .exit 0) :
    (∀ g r r' path, Generator.Reads g arguments r → g.Reads arguments' r' →
      r.AgreeBut "--output" r' → r.word? "--output" = none → r'.word? "--output" = some path →
      ∃ text p, run c arguments d = (.success (text ++ if g = .drift then "\n" else ""), d) ∧
        d.resolve (d.currentPath.join (.ofString path)) = .ok p ∧
        Delivers (execute stdout c arguments' d) p text) ∧
    ∀ r r', Statement.createTable.Reads arguments r → Statement.createTable.Reads arguments' r' →
      r.AgreeBut "--write" r' → r.isSet "--write" = false → r'.isSet "--write" = true →
      ∃ text p project, (∀ c₀ d₀, run c₀ arguments d₀ = (.success text, d₀)) ∧
        Project.ofDirectory d none = .ok project ∧
        locate d (Project.migrationPath project ((r.word? "name").getD "") c.now).text
          (project.map Project.root) = .ok p ∧
        Delivers (execute stdout c arguments' d) p text := by
  have hrun := execute_eq_run he
  rw [hrun] at he ⊢
  constructor
  · intro g r r' path h h' hagree hnone hsome
    exact h.delivers hd h' hagree hnone hsome he
  · intro r r' h h' hagree hunset hset
    exact h.delivers hd h' hagree hunset hset he

theorem file_holds_stdout_users :
    (loopDisk.WellFormed ∧ ∃ text p,
      run firstOfMay ["gen", "drift", "table", "users", "-c", "id:int"] loopDisk =
        (.success (text ++ "\n"), loopDisk) ∧
      Delivers (execute .utf8 firstOfMay
        ["gen", "drift", "table", "users", "-c", "id:int", "-o", "users.dart"] loopDisk) p text) ∧
    linkedDisk.WellFormed ∧ ∃ text p,
      (∀ c d, run c ["supabase", "create-table", "t", "-c", "id:int"] d = (.success text, d)) ∧
      Delivers (execute .utf8 firstOfMay
        ["supabase", "create-table", "t", "-c", "id:int", "--write"] linkedDisk) p text := by
  constructor
  · obtain ⟨hgen, -⟩ := @file_holds_stdout firstOfMay loopDisk
      ["gen", "drift", "table", "users", "-c", "id:int"]
      ["gen", "drift", "table", "users", "-c", "id:int", "-o", "users.dart"] .utf8
      wellFormed_loopDisk (by decide +kernel)
    let r : Reading :=
      ⟨[("type", ["table"]), ("name", ["users"]), ("--columns", ["id:int"])], [], []⟩
    have ho : generateGrammar.read ["drift", "table", "users", "-c", "id:int"] =
        .ok ⟨[("generator", ["drift"]), ("extra_args", ["table", "users", "-c", "id:int"])], [],
          []⟩ := by
      decide +kernel
    have ho' : generateGrammar.read
        ["drift", "table", "users", "-c", "id:int", "-o", "users.dart"] =
        .ok ⟨[("generator", ["drift"]),
          ("extra_args", ["table", "users", "-c", "id:int", "-o", "users.dart"])], [], []⟩ := by
      decide +kernel
    have h : Generator.drift.Reads ["gen", "drift", "table", "users", "-c", "id:int"] r :=
      .intro ho (by decide +kernel) (by decide +kernel)
    have h' : Generator.drift.Reads
        ["gen", "drift", "table", "users", "-c", "id:int", "-o", "users.dart"]
        (r.put "--output" ["users.dart"]) := .intro ho' (by decide +kernel) (by decide +kernel)
    obtain ⟨text, p, hrun, -, hdelivers⟩ := hgen _ r _ "users.dart" h h' (r.agreeBut_put _ _)
      (by decide +kernel) (by decide +kernel)
    exact ⟨wellFormed_loopDisk, text, p, hrun, hdelivers⟩
  · obtain ⟨-, htable⟩ := @file_holds_stdout firstOfMay linkedDisk
      ["supabase", "create-table", "t", "-c", "id:int"]
      ["supabase", "create-table", "t", "-c", "id:int", "--write"] .utf8 wellFormed_linkedDisk
      (by decide +kernel)
    let r : Reading := ⟨[("name", ["t"]), ("--columns", ["id:int"])], [], []⟩
    have ho : databaseGrammar.readKnown ["create-table", "t", "-c", "id:int"] =
        .ok ⟨[("action", ["create-table", "t", "-c", "id:int"])], [], []⟩ := by decide +kernel
    have ho' : databaseGrammar.readKnown ["create-table", "t", "-c", "id:int", "--write"] =
        .ok ⟨[("action", ["create-table", "t", "-c", "id:int", "--write"])], [], []⟩ := by
      decide +kernel
    have h : Statement.createTable.Reads ["supabase", "create-table", "t", "-c", "id:int"] r :=
      .intro ho (by decide +kernel) (by decide +kernel) rfl
    have h' : Statement.createTable.Reads
        ["supabase", "create-table", "t", "-c", "id:int", "--write"] (r.put "--write" []) :=
      .intro ho' (by decide +kernel) (by decide +kernel) rfl
    obtain ⟨text, p, -, hrun, -, -, hdelivers⟩ := htable r _ h h' (r.agreeBut_put _ _)
      (by decide +kernel) (by decide +kernel)
    exact ⟨wellFormed_linkedDisk, text, p, hrun, hdelivers⟩

end Command

end Scaffold
