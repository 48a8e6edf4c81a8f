import Mathlib.Data.List.Basic
import Mathlib.Tactic.Common
import SuitePool.Program
import SuitePool.Proofs.Cases.ExactlyOnce
import SuitePool.Proofs.Forked.Verdict

/-!
# The verdict of the program

The program that is asked to run tests ends with the code of success exactly if its settings are
loaded, files are found, ids are discovered in them, and the cases of all ids pass; with one
exception: suite code that is run in the program's own process may end it with any code, and with
that of success, too.  Suite code in worker processes cannot do so, and prints nothing on the
program's standard output.

## Main definitions

* `Session.PassesHere`, `Session.EndsProcess`: what may come of a run in one process.
* `Session.RunsQuietly`: all tasks of a forked run are quiet.
* `Invocation.ForkedOutcome`: what a forked invocation comes to under some order of moves.

## Main results

* `Session.succeeds_runTests_iff`: the verdict of a run in one process.
* `Session.exists_runTests_eq`: no suite code of a forked run is run in this process.
* `Session.exists_forkedRun`: the schedule in turns is one order of moves.
* `Invocation.run_verdict`: the verdict of the program.
-/

namespace SuitePool

open Pool Text

variable {σ : Type}

namespace Session

/-! ## Running in one process -/

/-- **Do all cases pass in this process?**  Files are found, ids are discovered in them, and the
case of each passes. -/
def PassesHere [Wording] (s : Session σ) (paths : List Path) : Prop :=
  ∃ ids, (s.findIds paths false).2.ending = .finished ids ∧
    ∀ id ∈ ids, s.site.registry.Passes s.site.host id

/-- **Does suite code end this process** with a code, in the course of discovering or running? -/
def EndsProcess [Wording] (s : Session σ) (paths : List Path) (code : UInt8) : Prop :=
  (s.runTests paths (some false)).2.ending = .exited code

/-- Once ids are discovered, they are run. -/
theorem ending_runTests_of_found [Wording] {s : Session σ} {paths : List Path} {ids : List TestId}
    (h : (s.findIds paths false).2.ending = .finished ids) :
    (s.runTests paths (some false)).2.ending =
      (s.site.registry.runIds s.site.host ids).ending := by
  have hsession : (s.findIds paths false).1 = s := by
    rw [findIds]
    cases s.findFiles paths <;> rfl
  have hrun : ((s.findIds paths false).1.runIds ids false).2 =
      s.site.registry.runIds s.site.host ids := by
    rw [hsession]
    rfl
  simp only [runTests, Option.getD_some, h, Exec.ending_bind_of_finished h, hrun]

/-- **A run in one process succeeds exactly if all cases pass.** -/
theorem succeeds_runTests_iff [Wording] {s : Session σ} {paths : List Path} :
    (s.runTests paths (some false)).2.Succeeds ↔ s.PassesHere paths := by
  unfold PassesHere Exec.Succeeds
  cases hfound : (s.findIds paths false).2.ending with
  | finished ids =>
    simp only [ending_runTests_of_found hfound, Ending.finished.injEq, exists_eq_left']
    exact Registry.succeeds_runIds_iff
  | failed e =>
    simp only [runTests, Option.getD_some, hfound, Exec.ending_bind_of_failed hfound,
      reduceCtorEq, false_and, exists_false]
  | panicked m =>
    simp only [runTests, Option.getD_some, hfound, Exec.ending_bind_of_panicked hfound,
      reduceCtorEq, false_and, exists_false]
  | exited c =>
    simp only [runTests, Option.getD_some, hfound, Exec.ending_bind_of_exited hfound,
      reduceCtorEq, false_and, exists_false]

/-! ## Running forked -/

/-- **Are all tasks of a forked run quiet**, in every worker? -/
def RunsQuietly [Wording] (s : Session σ) (paths : List Path) : Prop :=
  ∀ files, s.findFiles paths = .ok files →
    (∀ t ∈ discoveryTasks files s.settings.modulePath, ∀ i, t.IsQuiet (s.site.forSlot i)) ∧
      ∀ ids, (s.discoverIds files true).2.ending = .finished ids →
        ∀ t ∈ runTasksOf ids, ∀ i, t.IsQuiet (s.site.forSlot i)

variable {s : Session σ} {submitted : List Task}

/-- **A call of a session in order** is made of moves of its pool, and comes to its outcome. -/
theorem exists_moves_call [Wording] {α : Type} (h : s.IsSound submitted)
    (read : Json → Except String α) (ts : List Task)
    (hquiet : ∀ t ∈ submitted ++ ts, ∀ i, t.IsQuiet (s.site.forSlot i)) :
    ∃ c moves o, s.call read (.ok ts) = ({ s with crew := some c }, o) ∧ .cancel ∉ moves ∧
      submittedTasks moves = ts ∧
      (s.crew.getD (.ofSize s.poolSize)).pool.run (ownProgram s.processors s.site) moves =
        some c.pool ∧
      Crew.outcome? read c.pool (Crew.callNumbers submitted.length ts) = some o ∧
      ({ s with crew := some c } : Session σ).IsSound (submitted ++ ts) := by
  obtain ⟨hs, ho⟩ := Crew.outcome?_call read h.crew
    fun t ht i => isTidy_ownProgram s.processors (hquiet t ht i)
  obtain ⟨moves, hlive, hsub, hrun⟩ := Crew.reaches_call (ownProgram s.processors s.site) read
    (s.crew.getD (.ofSize s.poolSize)) ts
  refine ⟨_, moves, _, ?_, hlive, hsub, hrun, ho, isSound_with_crew h hs⟩
  rw [call, openPool_of_isSound h]

/-- A forked discovery of a session without a pool is made of moves of the pool that it opens. -/
theorem exists_moves_findIds [Wording] (h : s.IsSound []) (hcrew : s.crew = none)
    {paths files : List Path} (hfiles : s.findFiles paths = .ok files)
    (hquiet : ∀ t ∈ discoveryTasks files s.settings.modulePath, ∀ i,
      t.IsQuiet (s.site.forSlot i)) :
    ∃ c moves o, s.findIds paths true = ({ s with crew := some c }, .ofExcept o) ∧
      .cancel ∉ moves ∧ submittedTasks moves = discoveryTasks files s.settings.modulePath ∧
      (ofSize s.poolSize).run (ownProgram s.processors s.site) moves = some c.pool ∧
      forkedDiscovery? (Crew.callNumbers 0 (discoveryTasks files s.settings.modulePath)) c.pool =
        some o ∧
      ({ s with crew := some c } : Session σ).IsSound
        (discoveryTasks files s.settings.modulePath) := by
  obtain ⟨c, moves, o, hcall, hlive, hsub, hrun, ho, hsound⟩ := exists_moves_call h
    Crew.readIds (discoveryTasks files s.settings.modulePath) hquiet
  rw [hcrew, Option.getD_none] at hrun
  refine ⟨c, moves, o.map List.flatten, ?_, hlive, hsub, hrun, ?_, hsound⟩
  · simp only [findIds, hfiles, discoverIds, if_true]
    rw [show (files.map fun file => Task.discoverFile file s.settings.modulePath) =
      discoveryTasks files s.settings.modulePath from rfl, hcall]
  · rw [List.length_nil] at ho
    rw [forkedDiscovery?, ho, Option.map_some]

/-- A forked run of ids is made of moves of the pool; ids that cannot be grouped give it nothing. -/
theorem exists_moves_runIds [Wording] (h : s.IsSound submitted) {c : Crew} (hcrew : s.crew = some c)
    (ids : List TestId)
    (hquiet : ∀ t ∈ submitted ++ runTasksOf ids, ∀ i, t.IsQuiet (s.site.forSlot i)) :
    ∃ moves q o, (s.runIds ids true).2 = .ofExcept o ∧ .cancel ∉ moves ∧
      submittedTasks moves = runTasksOf ids ∧
      c.pool.run (ownProgram s.processors s.site) moves = some q ∧
      forkedRun? ids (Crew.callNumbers submitted.length (runTasksOf ids)) q = some o := by
  cases hg : groupIds ids with
  | error e =>
    refine ⟨[], c.pool, .error e, ?_, List.not_mem_nil, by rw [runTasksOf, hg]; rfl, rfl,
      by rw [forkedRun?, hg]⟩
    simp only [runIds, hg, if_true, call, openPool_of_isSound h]
    rfl
  | ok groups =>
    have htasks : runTasksOf ids = runTasks groups := by rw [runTasksOf, hg]
    rw [htasks] at hquiet ⊢
    obtain ⟨c', moves, o, hcall, hlive, hsub, hrun, ho, -⟩ :=
      exists_moves_call h Crew.readReport (runTasks groups) hquiet
    rw [hcrew, Option.getD_some] at hrun
    refine ⟨moves, c'.pool, o.map .mergeAll, ?_, hlive, hsub, hrun, ?_⟩
    · have hgroups : (Except.ok groups : Except Error Groups).map
          (fun groups => groups.map fun g => Task.runTestIds g.2) = .ok (runTasks groups) := rfl
      simp only [runIds, hg, if_true, hgroups, hcall]
      rfl
    · simp only [forkedRun?, hg, ho, Option.map_some]

/-- A forked discovery is told at once if it comes to an error. -/
theorem runTests_eq_of_error [Wording] {paths : List Path} {e : Error}
    (h : (s.findIds paths true).2 = .ofExcept (.error e)) :
    (s.runTests paths (some true)).2 = .ofExcept (.error e) := by
  simp only [runTests, Option.getD_some, h]
  rfl

theorem runTests_eq_of_ok [Wording] {paths : List Path} {ids : List TestId}
    {o : Except Error Report}
    (h : (s.findIds paths true).2 = .ofExcept (.ok ids))
    (ho : ((s.findIds paths true).1.runIds ids true).2 = .ofExcept o) :
    (s.runTests paths (some true)).2 = .ofExcept o := by
  simp only [runTests, Option.getD_some, h]
  show Exec.ofExcept (.ok ids) >>= (fun _ => ((s.findIds paths true).1.runIds ids true).2) = _
  rw [ho, Exec.ofExcept, pure_bind]

/-- A forked run comes to a report or to an error, and runs no suite code in this process. -/
theorem exists_runTests_eq [Wording] (s : Session σ) (paths : List Path) :
    ∃ o, (s.runTests paths (some true)).2 = .ofExcept o := by
  obtain ⟨found, hfound⟩ : ∃ found, (s.findIds paths true).2 = .ofExcept found := by
    rw [findIds]
    cases s.findFiles paths with
    | error e => exact ⟨.error e, rfl⟩
    | ok files => exact ⟨_, rfl⟩
  cases found with
  | error e => exact ⟨_, runTests_eq_of_error hfound⟩
  | ok ids => exact ⟨_, runTests_eq_of_ok hfound rfl⟩

/-- **The schedule in turns is one order of moves**: what a session comes to that is run forked, a
forked run comes to under some order of moves. -/
theorem exists_forkedRun [Wording] (h : s.IsSound []) (hcrew : s.crew = none) {paths : List Path}
    (hquiet : s.RunsQuietly paths) :
    ∃ moves o, .cancel ∉ moves ∧
      (∀ t ∈ submittedTasks moves, ∀ i, t.IsQuiet (s.site.forSlot i)) ∧
      s.ForkedRun paths moves o ∧ (s.runTests paths (some true)).2 = .ofExcept o := by
  cases hfiles : s.findFiles paths with
  | error e =>
    refine ⟨[], .error e, List.not_mem_nil, by simp [submittedTasks], .unfound hfiles, ?_⟩
    apply runTests_eq_of_error
    rw [findIds, hfiles]
    rfl
  | ok files =>
    obtain ⟨hq, hq'⟩ := hquiet files hfiles
    obtain ⟨c, before, o, hfind, hlive, hsub, hrun, ho, hsound⟩ :=
      exists_moves_findIds h hcrew hfiles hq
    have hfound : (s.findIds paths true).2 = .ofExcept o := by rw [hfind]
    cases o with
    | error e =>
      exact ⟨before, .error e, hlive, hsub ▸ hq, .undiscovered hfiles hsub hrun ho,
        runTests_eq_of_error hfound⟩
    | ok ids =>
      have hdiscovered : (s.discoverIds files true).2.ending = .finished ids := by
        rw [findIds, hfiles] at hfound
        exact congrArg Exec.ending hfound
      have hquiet' : ∀ t ∈ discoveryTasks files s.settings.modulePath ++ runTasksOf ids, ∀ i,
          t.IsQuiet (s.site.forSlot i) :=
        fun t ht => (List.mem_append.1 ht).elim (hq t) (hq' ids hdiscovered t)
      obtain ⟨after, q, o, hran, hlive', hsub', hrun', ho'⟩ :=
        exists_moves_runIds hsound rfl ids hquiet'
      rw [show (discoveryTasks files s.settings.modulePath).length = files.length from
        List.length_map ..] at ho'
      have happend : submittedTasks (before ++ after) =
          discoveryTasks files s.settings.modulePath ++ runTasksOf ids := by
        rw [← hsub, ← hsub']
        exact List.filterMap_append
      refine ⟨before ++ after, o, by simp [hlive, hlive'], happend ▸ hquiet',
        .ran hfiles hsub hrun ho hsub' hrun' ho', runTests_eq_of_ok hfound ?_⟩
      rw [hfind]
      exact hran

end Session

namespace Invocation

/-! ## Outcomes -/

/-- **The code of success** means that a report has no problems, or that suite code chose it. -/
theorem code_conclude_iff {x : Exec Error Report} {errors : String} {colours : Bool}
    {locale : Locale} :
    (conclude x errors (reportOutcome colours locale)).code = successCode ↔
      x.Succeeds ∨ x.ending = .exited successCode := by
  unfold Exec.Succeeds
  rw [conclude]
  cases x.ending with
  | finished q => cases hq : q.successful <;> simp [reportOutcome, hq, successCode, failureCode]
  | failed e => simp [successCode, failureCode]
  | panicked m => simp [successCode, panicCode]
  | exited c => simp

/-- Nothing is printed on the standard output but what suite code prints. -/
theorem output_conclude (o : Except Error Report) (errors : String) (colours : Bool)
    (locale : Locale) :
    (conclude (.ofExcept o) errors (reportOutcome colours locale)).output = [] := by
  cases o with
  | error e => rfl
  | ok q =>
    show [] ++ (reportOutcome colours locale q).output = []
    rw [reportOutcome]
    split_ifs <;> rfl

/-- **What a forked invocation comes to** under some order of the moves of its pool, whatever
appears on its error stream. -/
inductive ForkedOutcome [Wording] (i : Invocation σ) (o : Options) :
    List Move → Outcome → Prop where
  /-- The settings cannot be loaded. -/
  | unsettled {e : Error} (hs : i.settings o = .error e) (errors : String) :
      ForkedOutcome i o [] ⟨failureCode, [], errors⟩
  /-- The settings are loaded, and a session is run forked. -/
  | settled {settings : Settings} {moves : List Move} {r : Except Error Report}
      (hs : i.settings o = .ok settings) (hr : (i.session settings).ForkedRun o.paths moves r)
      (errors : String) : ForkedOutcome i o moves
        (conclude (.ofExcept r) errors (reportOutcome i.colours (i.locale settings)))

variable {i : Invocation σ} {o : Options}

/-- **The verdict of a forked invocation is right**, whatever the order of moves. -/
theorem ForkedOutcome.code_iff [Wording] {moves : List Move} {outcome : Outcome}
    (h : i.ForkedOutcome o moves outcome) (hlive : .cancel ∉ moves)
    (hquiet : ∀ t ∈ submittedTasks moves, ∀ slot, t.IsQuiet (i.site.forSlot slot)) :
    outcome.code = successCode ↔ ∃ settings, i.settings o = .ok settings ∧
      (i.session settings).PassesAt o.paths ((i.session settings).slots moves) := by
  cases h with
  | unsettled hs =>
    simp [hs, successCode, failureCode]
  | @settled settings _ r hs hr =>
    have hsession : (∃ settings, i.settings o = .ok settings ∧
        (i.session settings).PassesAt o.paths ((i.session settings).slots moves)) ↔
          (i.session settings).PassesAt o.paths ((i.session settings).slots moves) := by
      rw [hs]
      simp
    rw [hsession, code_conclude_iff, ← hr.successful_iff hlive hquiet]
    unfold Exec.Succeeds
    cases r with
    | error e => simp [Exec.ofExcept, Exec.fail, Exec.ofEnding]
    | ok q => simp [Exec.ofExcept, pure, Exec.ofEnding]

/-! ## The program -/

/-- What is run is a session with the settings of the invocation. -/
theorem run_of_parse [Wording] (h : CommandLine.parse i.arguments = .ok ⟨.run, o⟩) :
    i.run = i.withSession o fun s => i.runTests s o := by
  rw [run, h]
  rfl

/-- **The verdict of an invocation in one process.** -/
theorem code_run_sequential_iff [Wording] (hparse : CommandLine.parse i.arguments = .ok ⟨.run, o⟩)
    (hseq : o.sequential = true) :
    i.run.code = successCode ↔ ∃ settings, i.settings o = .ok settings ∧
      ((i.session settings).PassesHere o.paths ∨
        (i.session settings).EndsProcess o.paths successCode) := by
  rw [run_of_parse hparse, withSession]
  cases hs : i.settings o with
  | error e => simp [successCode, failureCode]
  | ok settings =>
    simp only [runTests, hseq, Bool.not_true, code_conclude_iff, Session.succeeds_runTests_iff,
      Except.ok.injEq, exists_eq_left']
    rfl

/-- **The schedule in turns is one order of moves** of a forked invocation. -/
theorem exists_forkedOutcome [Wording] (hparse : CommandLine.parse i.arguments = .ok ⟨.run, o⟩)
    (hseq : o.sequential = false)
    (hown : ∀ settings, i.settings o = .ok settings → settings.workerCommand = none)
    (hquiet : ∀ settings, i.settings o = .ok settings →
      (i.session settings).RunsQuietly o.paths) :
    ∃ moves, .cancel ∉ moves ∧
      (∀ t ∈ submittedTasks moves, ∀ slot, t.IsQuiet (i.site.forSlot slot)) ∧
      i.ForkedOutcome o moves i.run := by
  rw [run_of_parse hparse, withSession]
  cases hs : i.settings o with
  | error e => exact ⟨[], List.not_mem_nil, by simp [submittedTasks], .unsettled hs _⟩
  | ok settings =>
    have hsound : (i.session settings).IsSound [] :=
      Session.isSound_of_crew_eq_none rfl rfl (hown settings hs)
    obtain ⟨moves, r, hlive, hq, hr, hreport⟩ :=
      Session.exists_forkedRun hsound rfl (hquiet settings hs)
    refine ⟨moves, hlive, hq, ?_⟩
    simp only [runTests, hseq, Bool.not_false, hreport]
    exact .settled hs hr _

/-- A forked invocation prints nothing on its standard output, whatever its workers do. -/
theorem output_run_forked [Wording] (hparse : CommandLine.parse i.arguments = .ok ⟨.run, o⟩)
    (hseq : o.sequential = false) : i.run.output = [] := by
  rw [run_of_parse hparse, withSession]
  cases hs : i.settings o with
  | error e => rfl
  | ok settings =>
    obtain ⟨r, hr⟩ := (i.session settings).exists_runTests_eq o.paths
    simp only [runTests, hseq, Bool.not_false, hr]
    exact output_conclude ..

/-- **The verdict of the program.**  It is asked to run tests.  In one process it ends with the code
of success exactly if the settings are loaded, files are found, ids are discovered, and the cases of
all of them pass, or if suite code ends the process with this code.  Forked, it prints nothing on
its standard output; and in whatever order the slots of its workers take and finish jobs, as long as
tasks are quiet, it ends with the code of success exactly if the settings are loaded, files are
found and told to workers, each is discovered in the worker of its slot, and the case of every id
passes in the worker of the slot that is handed its group.  The order in which the program makes the
moves of its pool is one of these. -/
theorem run_verdict [Wording] (hparse : CommandLine.parse i.arguments = .ok ⟨.run, o⟩) :
    (o.sequential = true → (i.run.code = successCode ↔ ∃ settings, i.settings o = .ok settings ∧
      ((i.session settings).PassesHere o.paths ∨
        (i.session settings).EndsProcess o.paths successCode))) ∧
    (o.sequential = false → i.run.output = [] ∧
      ((∀ settings, i.settings o = .ok settings → settings.workerCommand = none) →
        (∀ settings, i.settings o = .ok settings → (i.session settings).RunsQuietly o.paths) →
        ∃ moves, .cancel ∉ moves ∧
          (∀ t ∈ submittedTasks moves, ∀ slot, t.IsQuiet (i.site.forSlot slot)) ∧
          i.ForkedOutcome o moves i.run) ∧
      ∀ moves outcome, i.ForkedOutcome o moves outcome → .cancel ∉ moves →
        (∀ t ∈ submittedTasks moves, ∀ slot, t.IsQuiet (i.site.forSlot slot)) →
        outcome.output = [] ∧
        (outcome.code = successCode ↔ ∃ settings, i.settings o = .ok settings ∧
          (i.session settings).PassesAt o.paths ((i.session settings).slots moves))) := by
  refine ⟨code_run_sequential_iff hparse, fun hseq => ⟨output_run_forked hparse hseq,
    exists_forkedOutcome hparse hseq, ?_⟩⟩
  intro moves outcome h hlive hquiet
  refine ⟨?_, h.code_iff hlive hquiet⟩
  cases h with
  | unsettled => rfl
  | settled => exact output_conclude ..

/-! ## An invocation for a suite in a file -/

/-- The invocation that runs the suite of a file, whose body ends in a given way. -/
def filedInvocation (more : List String) (ending : Ending Failure Unit) : Invocation Unit where
  arguments := "run" :: more ++ ["/pkg/m.rs"]
  environment := []
  tree := soloTree
  registry := (soloSite [] ending).registry
  input := []
  processors := 4

/-- What its command line asks for. -/
def filedOptions (sequential : Bool) : Options :=
  { Options.none with paths := [soloFile], sequential := sequential }

theorem isFile_defaultSettingsFile : soloTree.isFile defaultSettingsFile = false := by
  have hb : 0 ∉ defaultSettingsFile.bytes ∧ defaultSettingsFile.bytes ≠ [] ∧
      defaultSettingsFile.isAbsolute = false ∧
      ¬ greatestPathLength < defaultSettingsFile.bytes.length := by
    decide +kernel
  have hs : defaultSettingsFile.steps = [.enter (utf8 "TestFleet.toml")] := by decide +kernel
  have hl : ¬ greatestNameLength < (utf8 "TestFleet.toml").length := by decide +kernel
  have ha : lookupEntry (utf8 "TestFleet.toml") soloTree.top = none := by decide +kernel
  have hw : soloTree.workingTrail = [] := by
    simp [FileTree.workingTrail, soloTree, resolveSteps]
  simp only [FileTree.isFile, FileTree.node?, FileTree.resolve, FileTree.resolveAny, hb, hs, hw,
    resolveSteps, Trail.node, hl, ha, if_false, Bool.false_eq_true]
  rfl

theorem settings_filedInvocation [Wording] (more : List String) (ending : Ending Failure Unit)
    (sequential : Bool) :
    (filedInvocation more ending).settings (filedOptions sequential) =
      .ok (.defaults soloDirectory) := by
  have hfile : (filedInvocation more ending).settingsFile (filedOptions sequential) = none := by
    show (if soloTree.isFile defaultSettingsFile then some defaultSettingsFile else none) = none
    rw [isFile_defaultSettingsFile]
    rfl
  rw [settings, hfile]
  rfl

theorem session_filedInvocation (more : List String) (ending : Ending Failure Unit) :
    (filedInvocation more ending).session (.defaults soloDirectory) = filedSession [] ending :=
  rfl

theorem parse_sequential (ending : Ending Failure Unit) :
    CommandLine.parse (filedInvocation ["--sequential"] ending).arguments =
      .ok ⟨.run, filedOptions true⟩ := by
  rfl

theorem parse_forked (ending : Ending Failure Unit) :
    CommandLine.parse (filedInvocation [] ending).arguments = .ok ⟨.run, filedOptions false⟩ := by
  rfl

/-- The case of the suite passes in every process, if its body returns. -/
theorem passes_soloId (host : Host) :
    (filedSession [] (.finished ())).site.registry.Passes host soloId := by
  refine ⟨"m", soloSuite [] (.finished ()), _, by rfl, by rfl, (), rfl, rfl, rfl, rfl, rfl⟩

open scoped Terse in
/-- A body that returns lets the program succeed, in one process and forked. -/
theorem run_verdict_filed :
    (filedInvocation ["--sequential"] (.finished ())).run.code = successCode ∧
      (filedInvocation [] (.finished ())).run.output = [] ∧
      (filedInvocation [] (.finished ())).run.code = successCode := by
  have hsequential := run_verdict (parse_sequential (.finished ()))
  have hforked := (run_verdict (parse_forked (.finished ()))).2 rfl
  have hsettings := fun more => settings_filedInvocation more (.finished ())
  refine ⟨(hsequential.1 rfl).2 ⟨_, hsettings _ true, .inl ⟨[soloId],
    ending_findIds_filedSession .., List.forall_mem_singleton.2 (passes_soloId _)⟩⟩, hforked.1, ?_⟩
  have havoids : (filedSession [] (.finished ())).site.registry.AvoidsSeparator :=
    avoidsSeparator_soloSite List.not_mem_nil
  obtain ⟨moves, hlive, hquiet, houtcome⟩ := hforked.2.1
    (fun settings hs => by
      rw [hsettings, Except.ok.injEq] at hs
      subst hs
      rfl)
    (fun settings hs => by
      rw [hsettings, Except.ok.injEq] at hs
      subst hs
      exact fun files _ => ⟨fun t _ i => Task.isQuiet_forSlot havoids t i,
        fun ids _ t _ i => Task.isQuiet_forSlot havoids t i⟩)
  refine (hforked.2.2 moves _ houtcome hlive hquiet).2.2 ⟨_, hsettings _ false, [soloFile],
    [[soloId]], [("m.Solo", [soloId])], findFiles_filedSession .., ⟨rfl, ?_⟩, by decide +kernel, ?_⟩
  · intro k file ids hfile hids
    cases k with
    | zero =>
      cases hfile
      cases hids
      refine ⟨?_, ending_discoverFile_soloFile [] (.finished ()) _⟩
      have hw : (text? soloFile.bytes).isSome ∧ (text? soloDirectory.bytes).isSome := by
        decide +kernel
      exact List.forall_mem_cons.2 ⟨hw.1, List.forall_mem_singleton.2 hw.2⟩
    | succ k => cases hfile
  · intro k g hg id hid
    cases k with
    | zero =>
      cases hg
      rw [List.mem_singleton.1 hid]
      exact passes_soloId _
    | succ k => cases hg

open scoped Terse in
/-- A body that ends the process with the code of success lets the program end with it, though its
case does not pass. -/
theorem run_verdict_chosen :
    CommandLine.parse (filedInvocation ["--sequential"] (.exited 0)).arguments =
        .ok ⟨.run, filedOptions true⟩ ∧
      (filedInvocation ["--sequential"] (.exited 0)).run.code = successCode ∧
      ¬ ∃ settings, (filedInvocation ["--sequential"] (.exited 0)).settings (filedOptions true) =
          .ok settings ∧
        ((filedInvocation ["--sequential"] (.exited 0)).session settings).PassesHere
          (filedOptions true).paths := by
  have hfind := ending_findIds_filedSession [] (.exited 0)
  have hrun : ((filedSession [] (.exited 0)).site.registry.runIds
      (filedSession [] (.exited 0)).site.host [soloId]).ending = .exited 0 := by
    decide +kernel
  have hends := (Session.ending_runTests_of_found hfind).trans hrun
  have hsettings := settings_filedInvocation ["--sequential"] (.exited 0) true
  refine ⟨parse_sequential _, (code_run_sequential_iff (parse_sequential _) rfl).2
    ⟨_, hsettings, .inr hends⟩, ?_⟩
  rintro ⟨settings, hs, hpass⟩
  rw [hsettings, Except.ok.injEq] at hs
  subst hs
  -- The run has no report, so not all cases pass.
  obtain ⟨q, hq, -⟩ := Session.succeeds_runTests_iff.2 hpass
  rw [session_filedInvocation, show (filedOptions true).paths = [soloFile] from rfl, hends] at hq
  cases hq

end Invocation

end SuitePool
