import Mathlib.Data.List.Basic
import Mathlib.Data.List.Forall2
import Mathlib.Data.List.Nodup
import Mathlib.Data.List.Perm.Basic
import Mathlib.Tactic.Common
import SuitePool.Proofs.Cases.Calls
import SuitePool.Proofs.Cases.Discovered
import SuitePool.Proofs.Cases.Stages
import SuitePool.Proofs.Forked.Discovery
import SuitePool.Proofs.Loop.Steady

/-!
# From files to a report

What is found below one root and discovered is run case by case, each case once: files are found
once, two of them do not name one module, a module offers each of its cases once, and the id of a
case leads back to it.  The run counts all of them, unless suite code of a case ends the process.

## Main definitions

* `Exec.instances`: the instances that are built in a run.
* `TestCase.stages`, `TestCase.run`: a case by itself, and in a run.
* `TestCase.ComesTo`: what a run of cases comes to.

## Main results

* `TestCase.comesTo_foldlM`: cases are run one after the other, each on one instance.
* `Session.run_of_found`: no case is lost or run twice.
-/

namespace SuitePool

open Text

variable {σ ε α β : Type}

/-! ## Instances -/

/-- The instance that an event shows being built: its suite, and the module. -/
def Event.instance? : Event → Option (String × String)
  | .called module suite .construct => some (module, suite)
  | _ => none

namespace Exec

/-- **The instances that are built in a run**, in their order. -/
def instances (x : Exec ε α) : List (String × String) := x.events.filterMap Event.instance?

theorem instances_bind_of_finished {x : Exec ε α} {a : α} (h : x.ending = .finished a)
    (f : α → Exec ε β) : (x >>= f).instances = x.instances ++ (f a).instances := by
  simp only [instances, Bind.bind, Exec.bind, h, List.filterMap_append]

theorem instances_bind_of_ofEmpty {x : Exec ε α} {e : Ending Empty Empty}
    (h : x.ending = e.ofEmpty) (f : α → Exec ε β) : (x >>= f).instances = x.instances := by
  have hx : x.Shows x.events e.ofEmpty := ⟨rfl, h⟩
  rw [instances, hx.bind_ofEmpty.events, instances]

/-- What follows code without instances builds them. -/
theorem instances_bind_of_nil {x : Exec ε α} {f : α → Exec ε β} (h : ∀ a, (f a).instances = []) :
    (x >>= f).instances = x.instances := by
  cases hx : x.ending with
  | finished a => rw [instances_bind_of_finished hx, h, List.append_nil]
  | failed e => simp only [instances, Bind.bind, Exec.bind, hx]
  | panicked m => simp only [instances, Bind.bind, Exec.bind, hx]
  | exited c => simp only [instances, Bind.bind, Exec.bind, hx]

end Exec

/-- Only a construction builds an instance. -/
theorem instances_eventsOfCalls (module suite : String) (calls : List Call) :
    (eventsOfCalls module suite calls).filterMap Event.instance? =
      (calls.filter (·.hook = .construct)).map fun _ => (module, suite) := by
  induction calls with
  | nil => rfl
  | cons c calls ih =>
    have hprinted : (printedEvents c.printed ++ c.behind.map .printed : List Event).filterMap
        Event.instance? = [] := by
      rw [List.filterMap_eq_nil_iff, List.forall_mem_append, List.forall_mem_map]
      exact ⟨forall_mem_printedEvents (q := fun _ => True) (fun _ _ => rfl) trivial, fun _ _ => rfl⟩
    rw [← List.singleton_append, eventsOfCalls_append, List.filterMap_append, ih,
      List.filter_append, List.map_append]
    congr 1
    show (Call.events module suite c ++ []).filterMap Event.instance? = _
    rw [List.append_nil, Call.events, List.filterMap_cons, hprinted]
    obtain ⟨hook, printed, behind⟩ := c
    cases hook <;> rfl

namespace Suite

theorem instances_bind (s : Suite σ) (module : String) (host : Host) (method : String) :
    (s.bind module host method).instances = [] := by
  have hP := Exec.isCleanable_forall_events (ε := Error) fun e => e.instance? = none
  rw [Exec.instances, List.filterMap_eq_nil_iff]
  unfold bind
  split_ifs
  · exact List.forall_mem_nil _
  · split
    · exact List.forall_mem_nil _
    · refine hP.bind ?_ fun found _ => ?_
      · exact List.forall_mem_cons.2
          ⟨rfl, forall_mem_printedEvents (q := fun _ => True) (fun _ _ => rfl) trivial⟩
      · cases found with
        | ok body => exact List.forall_mem_nil _
        | error f =>
          refine hP.bind ?_ fun _ _ => List.forall_mem_nil _
          exact Aftermath.forall_events_run (q := fun _ => True) (fun _ _ => rfl) trivial
    · exact List.forall_mem_nil _

variable (s : Suite σ) (host : Host) (method : String) (body : Body σ)

/-- **A case builds one instance**, whether it is over or left on its way. -/
theorem instances_runStages (module : String) :
    (s.runStages module host method body : Exec ε _).instances = [(module, s.name)] := by
  rcases s.runStages_cases (ε := ε) module host method body with
    ⟨calls, ps, hcalls, hshows⟩ | ⟨calls, e, hcalls, hshows⟩
  · rw [Exec.instances, hshows.events, instances_eventsOfCalls]
    cases hcalls <;> rfl
  · rw [Exec.instances, hshows.events, instances_eventsOfCalls]
    cases hcalls <;> rfl

theorem instances_runCase (module : String) (id : TestId) (q : Report) :
    (s.runCase module host method body id q : Exec ε _).instances = [(module, s.name)] := by
  rw [runCase, Exec.instances_bind_of_nil fun _ => rfl, Exec.timed,
    Exec.instances_bind_of_nil fun _ => rfl, instances_runStages]

end Suite

/-! ## Cases in a run -/

namespace TestCase

/-- **The stages of a case.** -/
def stages (c : TestCase σ) (host : Host) : Exec Error (List Problem) := do
  let body ← c.suite.bind c.module host c.method
  c.suite.runStages c.module host c.method body

/-- **A case in a run.** -/
def run (host : Host) (q : Report) (c : TestCase σ) : Exec Error Report := do
  let body ← c.suite.bind c.module host c.method
  c.suite.runCase c.module host c.method body c.id q

/-- The suite of a case, with the module. -/
def place (c : TestCase σ) : String × String := (c.module, c.suite.name)

variable {r : Registry σ} {host : Host} {c : TestCase σ}

theorem IsOffered.suiteOf_id (hc : c.IsOffered r host) (hn : r.HasDistinctNames) :
    r.suiteOf c.id = .ok (c.module, c.suite) := by
  rw [Registry.suiteOf, TestId.suitePath?, hc.splitAtLastDot_id hn, Option.map_some]
  exact hc.loadSuite_eq hn

/-- **To run the id of a case is to run the case.** -/
theorem IsOffered.runOne_id (hc : c.IsOffered r host) (hn : r.HasDistinctNames) (q : Report) :
    r.runOne host q c.id = c.run host q := by
  rw [Registry.runOne, hc.suiteOf_id hn, Exec.ofExcept, pure_bind]
  dsimp only
  rw [Registry.runId, TestId.method?, hc.splitAtLastDot_id hn, run]
  rfl

/-- A case in a run is counted, unless its stages are left on their way; and one instance is
built. -/
theorem run_cases {b : Body σ} (hb : (c.suite.bind c.module host c.method).ending = .finished b)
    (q : Report) :
    ((∃ q', (c.run host q).ending = .finished q' ∧ q'.testsRun = q.testsRun + 1) ∨
      ∃ e : Ending Empty Empty,
        (c.run host q).ending = e.ofEmpty ∧ (c.stages host).ending = e.ofEmpty) ∧
    (c.run host q).instances = [c.place] := by
  have halike := c.suite.alike_runCase (ε := Error) c.module host c.method b c.id q
  constructor
  · rw [run, stages, Exec.ending_bind_of_finished hb, Exec.ending_bind_of_finished hb]
    unfold Exec.Alike at halike
    rcases c.suite.runStages_cases (ε := Error) c.module host c.method b with
      ⟨calls, ps, -, hshows⟩ | ⟨calls, e, -, hshows⟩
    · rw [hshows.ending] at halike
      generalize (c.suite.runCase c.module host c.method b c.id q : Exec Error Report).ending = e'
        at halike
      obtain ⟨n, rfl⟩ | _ | _ | _ := halike
      exact .inl ⟨_, rfl, q.testsRun_record c.id _⟩
    · refine .inr ⟨e, ?_, hshows.ending⟩
      rw [hshows.ending] at halike
      generalize (c.suite.runCase c.module host c.method b c.id q : Exec Error Report).ending = e'
        at halike
      cases e with
      | finished a => exact a.elim
      | failed e => exact e.elim
      | panicked m => cases halike; rfl
      | exited code => cases halike; rfl
  · rw [run, Exec.instances_bind_of_finished hb, Suite.instances_bind, List.nil_append,
      Suite.instances_runCase, place]

/-- **What a run of cases comes to** that starts from a report. -/
inductive ComesTo (host : Host) (order : List (TestCase σ)) (q : Report) (x : Exec Error Report) :
    Prop where
  /-- All cases are run and counted, each on one instance. -/
  | all {q' : Report} (hend : x.ending = .finished q')
      (hcount : q'.testsRun = q.testsRun + .ofNat order.length)
      (hbuilt : x.instances = order.map place)
  /-- The stages of a case end the process, or let a panic out, and no case behind it is run. -/
  | ended {before after : List (TestCase σ)} {c : TestCase σ} {e : Ending Empty Empty}
      (horder : order = before ++ c :: after) (hstages : (c.stages host).ending = e.ofEmpty)
      (hend : x.ending = e.ofEmpty) (hbuilt : x.instances = (before ++ [c]).map place)

/-- **Cases are run one after the other**, each on one instance. -/
theorem comesTo_foldlM {order : List (TestCase σ)}
    (hb : ∀ c ∈ order, ∃ b, (c.suite.bind c.module host c.method).ending = .finished b)
    (q : Report) : ComesTo host order q (order.foldlM (run host) q) := by
  induction order generalizing q with
  | nil => exact .all rfl (by simp) rfl
  | cons c order ih =>
    rw [List.forall_mem_cons] at hb
    obtain ⟨⟨b, hbody⟩, hb⟩ := hb
    obtain ⟨⟨q', hq', hcount⟩ | ⟨e, hend, hstages⟩, hbuilt⟩ := run_cases hbody q
    · -- The case is counted, and the others go on from its report.
      have hending := Exec.ending_bind_of_finished hq' fun q => order.foldlM (run host) q
      have hinstances := Exec.instances_bind_of_finished hq' fun q => order.foldlM (run host) q
      rw [hbuilt] at hinstances
      rw [List.foldlM_cons]
      cases ih hb q' with
      | all hend hcount' hbuilt' =>
        refine .all (hending.trans hend) ?_ ?_
        · rw [hcount', hcount, List.length_cons, Nat.add_comm, UInt64.ofNat_add, UInt64.add_assoc]
          rfl
        · rw [hinstances, hbuilt']
          rfl
      | @ended before after d e horder hstages hend hbuilt' =>
        have hsplit : c :: order = (c :: before) ++ d :: after := by rw [horder, List.cons_append]
        refine .ended hsplit hstages (hending.trans hend) ?_
        rw [hinstances, hbuilt']
        rfl
    · -- The case is the last one.
      rw [List.foldlM_cons]
      have hsplit : c :: order = [] ++ c :: order := rfl
      have hx : (c.run host q).Shows (c.run host q).events e.ofEmpty := ⟨rfl, hend⟩
      refine .ended hsplit hstages hx.bind_ofEmpty.ending ?_
      rw [Exec.instances_bind_of_ofEmpty hend, hbuilt]
      rfl

/-- **A case lets no panic out** that no panic leaves. -/
theorem IsOffered.isPanic_stages (hc : c.IsOffered r host) (hn : r.HasDistinctNames)
    (hl : r.LeaksNoPanic host) : (c.stages host).ending.isPanic = false := by
  obtain ⟨b, hb⟩ := hc.bind_finished hn
  rw [stages, Exec.ending_bind_of_finished hb]
  exact (hl c.suite hc.hasSuite).isPanic_runStages hb

end TestCase

/-! ## Runs of what is offered -/

/-- **To run the ids of cases is to run the cases**, in some order. -/
theorem Registry.runIds_of_isOffered {r : Registry σ} {host : Host} {cases : List (TestCase σ)}
    (hc : ∀ c ∈ cases, c.IsOffered r host) (hn : r.HasDistinctNames) :
    ∃ order : List (TestCase σ), order.Perm cases ∧
      r.runIds host (cases.map TestCase.id) = order.foldlM (TestCase.run host) .empty := by
  cases hg : groupIds (cases.map TestCase.id) with
  | error e =>
    -- The id of a case has a dot, so it belongs to a group.
    obtain ⟨id, hid, hpath, -⟩ := groupIds_eq_error hg
    obtain ⟨c, hmem, rfl⟩ := List.mem_map.1 hid
    rw [TestId.suitePath?, (hc c hmem).splitAtLastDot_id hn] at hpath
    cases hpath
  | ok groups =>
    obtain ⟨order, horder, hmap⟩ : Relation.Comp (· = List.map TestCase.id ·) List.Perm
        (groups.flatMap (·.2)) cases := by
      rw [List.eq_map_comp_perm]
      exact perm_of_groupIds hg
    refine ⟨order, hmap, ?_⟩
    rw [r.runIds_eq_foldlM host hg, horder]
    have hoffered : ∀ c ∈ order, c.IsOffered r host := fun c hmem => hc c (hmap.mem_iff.1 hmem)
    clear horder hmap
    generalize Report.empty = q
    induction order generalizing q with
    | nil => rfl
    | cons c order ih =>
      rw [List.forall_mem_cons] at hoffered
      rw [List.map_cons, List.foldlM_cons, List.foldlM_cons, hoffered.1.runOne_id hn]
      exact bind_congr fun q' => ih hoffered.2 q'

/-- What is paired with something of a list, if pairs are told by what comes first. -/
theorem mem_iff_of_forall₂ {R : α → β → Prop} {as : List α} {bs : List β}
    (h : List.Forall₂ R as bs) (hR : ∀ a ∈ as, ∀ b c, R a b → R a c → b = c) {b : β} :
    b ∈ bs ↔ ∃ a ∈ as, R a b := by
  induction h with
  | nil => simp
  | @cons a c as bs hac _ ih =>
    rw [List.forall_mem_cons] at hR
    rw [List.mem_cons, ih hR.2, List.exists_mem_cons_iff]
    constructor
    · rintro (rfl | h)
      · exact .inl hac
      · exact .inr h
    · rintro (h | h)
      · exact .inl (hR.1 b c h hac)
      · exact .inr h

namespace Registry

variable {r : Registry σ} {host : Host} {t : FileTree} {root : Path} {files : List Path}
  {modules : List String}

/-- The cases that are offered by modules of files. -/
theorem mem_flatMap_cases_iff
    (hm : List.Forall₂ (fun f m => moduleOfFile t [root] f = .ok m) files modules)
    {c : TestCase σ} : c ∈ modules.flatMap (r.cases host) ↔
      (∃ f ∈ files, moduleOfFile t [root] f = .ok c.module) ∧ c.IsOffered r host := by
  rw [← mem_iff_of_forall₂ hm fun f _ m m' h h' => Except.ok.inj (h.symm.trans h'),
    List.mem_flatMap]
  simp only [mem_cases_iff]
  constructor
  · rintro ⟨m, hm, rfl, hc⟩
    exact ⟨hm, hc⟩
  · rintro ⟨hm, hc⟩
    exact ⟨_, hm, rfl, hc⟩

/-- **Files name modules that offer each case once.** -/
theorem nodup_flatMap_cases (host : Host) (hn : r.HasDistinctNames) (hfiles : files.Nodup)
    (hreal : ∀ f ∈ files, t.IsRealPath f)
    (hm : List.Forall₂ (fun f m => moduleOfFile t [root] f = .ok m) files modules) :
    (modules.flatMap (r.cases host)).Nodup := by
  -- A module is named by one file, and a file names one module.
  have hunique : Relator.BiUnique fun f m => t.IsRealPath f ∧ moduleOfFile t [root] f = .ok m :=
    ⟨fun _ _ _ hf hg => moduleOfFile_injective hf.1 hg.1 hf.2 hg.2,
      fun _ _ _ h h' => Except.ok.inj (h.2.symm.trans h'.2)⟩
  have hmodules : modules.Nodup :=
    (List.rel_nodup hunique ((List.forall₂_and_left files modules).2 ⟨hreal, hm⟩)).1 hfiles
  refine List.nodup_flatMap.2 ⟨fun m _ => nodup_cases hn m, hmodules.imp ?_⟩
  intro m m' hne c hc hc'
  exact hne ((mem_cases_iff.1 hc).1.symm.trans (mem_cases_iff.1 hc').1)

end Registry

namespace Session

/-- **No case is lost or run twice.**  Suite files are found and their ids discovered, where there
is one root and names are distinct and hold no dots.  Then no id is discovered twice; the ids are
those of the cases that the modules of the files offer, each once; and running them in the same
process runs these cases one after the other, each once and on one instance, and counts them all,
unless the stages of one of them end the process, or let a panic out.  The latter happens only if a
panic can leave a case of the suites, and neither does if all suites are tame. -/
theorem run_of_found [Wording] {s : Session σ} {root : Path} {paths : List Path} {ids : List TestId}
    (hroot : s.settings.modulePath = [root]) (hhere : s.site.tree.HasPlainHere)
    (hn : s.site.registry.HasDistinctNames)
    (hfind : (s.findIds paths false).2.ending = .finished ids) :
    ids.Nodup ∧ ∃ files cases, s.findFiles paths = .ok files ∧
      (∀ c : TestCase σ, c ∈ cases ↔
        (∃ f ∈ files, Registry.moduleOfFile s.site.tree [root] f = .ok c.module) ∧
          c.IsOffered s.site.registry s.site.host) ∧
      cases.Nodup ∧ ids = cases.map TestCase.id ∧
      ∃ order, order.Perm cases ∧
        (s.runIds ids false).2 = order.foldlM (TestCase.run s.site.host) .empty ∧
        TestCase.ComesTo s.site.host order .empty (s.runIds ids false).2 ∧
        (s.site.registry.LeaksNoPanic s.site.host →
          (s.runIds ids false).2.ending.isPanic = false) ∧
        (s.site.registry.IsTameIn s.site.host →
          ∃ report, (s.runIds ids false).2.ending = .finished report) := by
  rw [findIds] at hfind
  cases hfiles : s.findFiles paths with
  | error e => rw [hfiles] at hfind; cases hfind
  | ok files =>
    simp only [hfiles, discoverIds, Bool.false_eq_true, if_false, hroot] at hfind
    obtain ⟨modules, hmodules, hids⟩ := Registry.discoverFiles_ids hfind
    have hoffered : ∀ c ∈ modules.flatMap (s.site.registry.cases s.site.host),
        c.IsOffered s.site.registry s.site.host :=
      fun c hc => ((Registry.mem_flatMap_cases_iff hmodules).1 hc).2
    have hnodup := Registry.nodup_flatMap_cases s.site.host hn (nodup_of_findTestFiles hfiles)
      (fun f hf => isRealPath_of_mem_findTestFiles hhere hfiles hf) hmodules
    obtain ⟨order, hperm, hrun⟩ := Registry.runIds_of_isOffered hoffered hn
    have hcomes := TestCase.comesTo_foldlM
      (fun c hc => (hoffered c (hperm.mem_iff.1 hc)).bind_finished hn) Report.empty
    refine ⟨?_, files, _, rfl, fun c => Registry.mem_flatMap_cases_iff hmodules, hnodup, hids,
      order, hperm, ?_, ?_, ?_, ?_⟩
    · rw [hids]
      exact hnodup.map_on fun c hc d hd he => (hoffered c hc).id_injective (hoffered d hd) hn he
    · rw [hids]
      exact hrun
    · rw [hids, show (s.runIds _ false).2 = _ from hrun]
      exact hcomes
    · intro hl
      rw [hids, show (s.runIds _ false).2 = _ from hrun]
      cases hcomes with
      | all hend => rw [hend]; rfl
      | @ended before after c e horder hstages hend =>
        -- A panic of the run is one of the stages of a case.
        have hc : c ∈ order := by
          rw [horder]
          exact List.mem_append_right _ (List.mem_cons_self ..)
        have hcase := (hoffered c (hperm.mem_iff.1 hc)).isPanic_stages hn hl
        rwa [hstages, Ending.isPanic_ofEmpty, ← Ending.isPanic_ofEmpty, ← hend] at hcase
    · intro ht
      have horderly := Registry.isOrderly_runIds ht ids
      rw [hids, show s.site.registry.runIds _ _ = _ from hrun] at horderly
      rw [hids, show (s.runIds _ false).2 = _ from hrun]
      cases hcomes with
      | all hend => exact ⟨_, hend⟩
      | ended horder hstages hend =>
        rw [hend] at horderly
        exact absurd horderly (Ending.not_isOrderly_ofEmpty _)

end Session

/-! ## A suite in a file -/

section Filed

variable (printed : Bytes) (ending : Ending Failure Unit)

/-- A session with the file of a suite, whose body prints bytes and ends in a given way. -/
def filedSession : Session Unit where
  site := { soloSite printed ending with tree := soloTree }
  environment := []
  settings := .defaults soloDirectory
  command := none
  processors := 4
  crew := none

theorem hasDistinctNames_filedSession :
    (filedSession printed ending).site.registry.HasDistinctNames := by
  have hsolo : ∀ s, (filedSession printed ending).site.registry.HasSuite s →
      s = soloSuite printed ending := fun s hs => hasSuite_soloSite hs
  refine ⟨?_, ?_, ?_, ?_⟩
  · intro m hm
    rw [List.mem_singleton.1 hm]
    exact List.nodup_singleton _
  · intro s hs
    rw [hsolo s hs]
    exact List.nodup_singleton _
  · intro s hs
    rw [hsolo s hs]
    show '.' ∉ "Solo".toList
    decide
  · intro s hs m hm
    rw [hsolo s hs] at hm
    rw [List.mem_singleton.1 hm]
    show '.' ∉ "test_one".toList
    decide

theorem findFiles_filedSession :
    (filedSession printed ending).findFiles [soloFile] = .ok [soloFile] := by
  have hfile : findPathFiles soloTree Settings.defaultFilenamePattern soloFile =
      .ok [soloFile] := by
    rw [findPathFiles, isFile_soloFile, if_pos rfl, realPath?_soloFile]
  show findTestFiles soloTree [soloFile] none _ = _
  simp only [findTestFiles, List.isEmpty_cons, Bool.false_eq_true, if_false, Option.getD_none,
    filedSession, Settings.defaults, List.mapM_cons, List.mapM_nil, hfile]
  rfl

open scoped Terse in
/-- The file is found, and the id of the suite is discovered in it. -/
theorem ending_findIds_filedSession :
    ((filedSession printed ending).findIds [soloFile] false).2.ending = .finished [soloId] := by
  rw [Session.findIds, findFiles_filedSession]
  simp only [Session.discoverIds, Bool.false_eq_true, if_false, Registry.discoverFiles]
  refine (Exec.ending_bind_of_finished (a := [[soloId]]) ?_ _).trans rfl
  rw [List.mapM_cons]
  exact (Exec.ending_bind_of_finished (ending_discoverFile_soloFile printed ending _) _).trans rfl

end Filed

open scoped Terse in
/-- The one case of a file is run, and counted. -/
theorem Session.run_of_found_file :
    (filedSession [] (.finished ())).settings.modulePath = [soloDirectory] ∧
      (filedSession [] (.finished ())).site.tree.HasPlainHere ∧
      (filedSession [] (.finished ())).site.registry.HasDistinctNames ∧
      ((filedSession [] (.finished ())).findIds [soloFile] false).2.ending = .finished [soloId] ∧
      [soloId].Nodup ∧
      (∃ order : List (TestCase Unit), [soloId].Perm (order.map TestCase.id) ∧
        TestCase.ComesTo (filedSession [] (.finished ())).site.host order .empty
          ((filedSession [] (.finished ())).runIds [soloId] false).2) ∧
      ((filedSession [] (.finished ())).runIds [soloId] false).2.ending =
        .finished ⟨1, [], [], 0⟩ := by
  have hfind := ending_findIds_filedSession [] (.finished ())
  have hhere : (filedSession [] (.finished ())).site.tree.HasPlainHere := by
    intro n hn
    cases hn
  have hnames := hasDistinctNames_filedSession [] (.finished ())
  obtain ⟨hnodup, files, cases, -, -, -, hids, order, hperm, -, hcomes, -⟩ :=
    run_of_found rfl hhere hnames hfind
  refine ⟨rfl, hhere, hnames, hfind, hnodup, ⟨order, ?_, hcomes⟩, by decide +kernel⟩
  rw [hids]
  exact (hperm.map TestCase.id).symm

open scoped Terse in
/-- A body that ends the process leaves a run without a report. -/
theorem Session.run_of_found_may_exit :
    (filedSession [] (.exited 3)).settings.modulePath = [soloDirectory] ∧
      (filedSession [] (.exited 3)).site.tree.HasPlainHere ∧
      (filedSession [] (.exited 3)).site.registry.HasDistinctNames ∧
      ((filedSession [] (.exited 3)).findIds [soloFile] false).2.ending = .finished [soloId] ∧
      ((filedSession [] (.exited 3)).runIds [soloId] false).2.ending = .exited 3 := by
  refine ⟨rfl, ?_, hasDistinctNames_filedSession .., ending_findIds_filedSession .., ?_⟩
  · intro n hn
    cases hn
  · decide +kernel

end SuitePool
