import Mathlib.Data.List.Basic
import Mathlib.Tactic.Common
import SuitePool.Proofs.Aftermath
import SuitePool.Proofs.Report

/-!
# Suites in several processes

The same suites are run by the pool's own process and by its workers.  If the behaviour of a hook
depends on nothing but the instance it acts on, then a case, a suite and a list of ids end in every
process as they do in any other, and so does the discovery of a file.  What hooks print and how
long they take may differ from process to process.

Code that never ends its process and lets no panic leave a case, and getters that never panic, leave
a run only two ways to end: with a report or with an error.

## Main definitions

* `Act.Agrees`, `Body.Agrees`, `Member.Agrees`, `Suite.Agrees`: code that does the same in two
  processes.
* `Registry.IgnoresHost`: no hook depends on the process it runs in.
* `Member.IsTame`, `Suite.IsTame`: no hook ends the process, no getter panics, and no panic leaves a
  case.
* `Registry.IsTame`, `Registry.HasTameGetters`; and `Registry.IsTameIn`,
  `Registry.HasTameGettersIn` of one process.

## Main results

* `Registry.runIds_alike`: ids are run alike in all processes.
* `Registry.ending_discoverFile_congr`: files are discovered alike in all processes.
* `Exec.IsCleanable.runIds`, `Exec.IsCleanable.discoverFile`: what is kept is kept by runs and
  discoveries.
* `Registry.isOrderly_runIds`, `Registry.isOrderly_discoverFile`: runs and discoveries end orderly.
-/

namespace SuitePool

open Text

variable {σ ε φ α β : Type}

/-! ## Agreement -/

/-- **Do two acts end alike**, and the code behind them, too?  Times and printed bytes may
differ. -/
structure Act.Agrees (R : α → β → Prop) (a : Act φ α) (b : Act φ β) : Prop where
  ending : a.ending.Alike R b.ending
  writing : a.writing.ending = b.writing.ending
  dropping : a.dropping.ending = b.dropping.ending

/-- **Do two bodies do the same**, each in its own process? -/
def Body.Agrees (h h' : Host) (b b' : Body σ) : Prop :=
  ∀ x, (b h x).1 = (b' h' x).1 ∧ (b h x).2.Agrees Eq (b' h' x).2

/-- Does a member do the same in two processes? -/
def Member.Agrees (h h' : Host) : Member σ → Prop
  | .method body => Body.Agrees h h' body body
  | .value => True
  | .getter resolve => (resolve h).Agrees (Body.Agrees h h') (resolve h')

/-- **Does a suite do the same in two processes?** -/
structure Suite.Agrees (s : Suite σ) (h h' : Host) : Prop where
  /-- Instances are built alike. -/
  construct : (s.construct h).Agrees Eq (s.construct h')
  /-- They are set up alike. -/
  setUp : Body.Agrees h h' s.setUp s.setUp
  /-- They are torn down alike. -/
  tearDown : Body.Agrees h h' s.tearDown s.tearDown
  /-- They are dropped alike. -/
  drop : ∀ x, (s.drop h x).Agrees Eq (s.drop h' x)
  /-- All members do the same. -/
  members : ∀ m ∈ s.members, m.2.Agrees h h'

/-- Is the suite registered in some module? -/
def Registry.HasSuite (r : Registry σ) (s : Suite σ) : Prop :=
  ∃ m ∈ r.modules, Item.suite s ∈ m.items

/-- **Does no hook depend on the process it runs in?** -/
def Registry.IgnoresHost (r : Registry σ) : Prop :=
  ∀ s, r.HasSuite s → ∀ h h', s.Agrees h h'

/-- Does each getter yield a method in all processes or in none, and then end alike in all? -/
def Registry.ResolvesAlike (r : Registry σ) : Prop :=
  ∀ s, r.HasSuite s → ∀ name resolve, (name, .getter resolve) ∈ s.members →
    ∀ h h', (resolve h).Agrees (fun _ _ => True) (resolve h')

theorem Registry.IgnoresHost.resolvesAlike {r : Registry σ} (hr : r.IgnoresHost) :
    r.ResolvesAlike := by
  intro s hs name resolve hm h h'
  have hg : (resolve h).Agrees (Body.Agrees h h') (resolve h') := (hr s hs h h').members _ hm
  exact ⟨hg.ending.mono fun _ _ _ => trivial, hg.writing, hg.dropping⟩

/-! ## Loading -/

namespace Registry

theorem mem_of_loadModule {r : Registry σ} {name : String} {m : Module σ}
    (h : r.loadModule name = .ok m) : m ∈ r.modules := by
  rw [loadModule] at h
  cases hf : r.modules.find? (fun m => m.name == name) with
  | none => rw [hf] at h; cases h
  | some n =>
    rw [hf] at h
    cases h
    exact List.mem_of_find?_eq_some hf

theorem mem_of_findSuite? {name : String} {items : List (Item σ)} {s : Suite σ}
    (h : findSuite? name items = some s) : Item.suite s ∈ items := by
  induction items with
  | nil => cases h
  | cons item rest ih =>
    cases item with
    | suite t =>
      rw [findSuite?] at h
      split_ifs at h
      · cases h
        exact List.mem_cons_self ..
      · exact List.mem_cons_of_mem _ (ih h)
    | plainClass n => exact List.mem_cons_of_mem _ (ih h)
    | value n => exact List.mem_cons_of_mem _ (ih h)

/-- A suite that is loaded is registered. -/
theorem hasSuite_of_loadSuite {r : Registry σ} {path module : String} {s : Suite σ}
    (h : r.loadSuite path = .ok (module, s)) : r.HasSuite s := by
  rw [loadSuite] at h
  cases hp : splitAtLastDot path with
  | none => rw [hp] at h; cases h
  | some p =>
    obtain ⟨name, suite⟩ := p
    simp only [hp] at h
    obtain ⟨m, hm, h⟩ := bind_eq_ok_iff.1 h
    cases hs : findSuite? suite m.items with
    | none => rw [hs] at h; cases h
    | some t =>
      rw [hs] at h
      cases h
      exact ⟨m, mem_of_loadModule hm, mem_of_findSuite? hs⟩

end Registry

/-! ## Running alike -/

namespace Act.Agrees

theorem ending_eq {a b : Act φ α} (h : a.Agrees Eq b) : a.ending = b.ending :=
  Ending.alike_eq_iff.1 h.ending

variable {R : α → β → Prop} {a : Act φ α} {b : Act φ β}

/-- Errors of both acts are written and dropped alike. -/
theorem writeError (h : a.Agrees R b) :
    (a.writeError : Exec ε Unit).ending = (b.writeError : Exec ε Unit).ending :=
  Exec.ending_bind_congr (Exec.ending_cleanedBy_congr (Aftermath.ending_run_congr h.writing)
    (Aftermath.ending_run_congr h.dropping)) fun _ => Aftermath.ending_run_congr h.dropping

theorem settle (h : a.Agrees R b) :
    (a.settle : Exec ε Unit).ending = (b.settle : Exec ε Unit).ending := by
  have he := h.ending
  unfold Act.settle
  generalize a.ending = e at he
  generalize b.ending = e' at he
  cases he with
  | failed f => exact h.writeError
  | panicked m => exact Aftermath.ending_run_congr h.dropping
  | _ => rfl

theorem unnamed {a b : Act Empty Unit} (h : a.Agrees Eq b) :
    (a.unnamed : Exec ε Unit).ending = b.unnamed.ending :=
  Aftermath.ending_run_congr h.ending_eq

end Act.Agrees

namespace Suite

variable {s : Suite σ} {h h' : Host}

/-- A member's body does the same in both processes, or is missing in both. -/
theorem bind_alike (ha : s.Agrees h h') (module method : String) :
    (s.bind module h method).Alike (Body.Agrees h h') (s.bind module h' method) := by
  unfold bind
  split_ifs
  · exact .failed _
  · -- The same member is found in both processes.
    cases hf : s.members.find? (fun m => m.1 == method) with
    | none => exact .failed _
    | some m =>
      obtain ⟨name, member⟩ := m
      have hm := ha.members _ (List.mem_of_find?_eq_some hf)
      cases member with
      | method body => exact .finished hm
      | value => exact .failed _
      | getter resolve =>
        have hg : (resolve h).Agrees (Body.Agrees h h') (resolve h') := hm
        have hasked : ((resolve h).run module s.name (.resolve name)).Alike (Body.Agrees h h')
            ((resolve h').run module s.name (.resolve name)) := hg.ending
        refine hasked.attempt.bind ?_
        rintro _ _ (⟨body, body', rfl, rfl, hb⟩ | ⟨f, rfl, rfl⟩)
        · exact Exec.alike_pure hb
        · exact (Exec.alike_eq_iff.2 (Aftermath.ending_run_congr hg.dropping)).bind
            fun _ _ _ => .failed _

theorem ending_runStage_congr (ha : s.Agrees h h') {a a' : Act Failure Unit} (hact : a.Agrees Eq a')
    (module : String) (reason : Reason) (hook : Hook) (left : σ) :
    (s.runStage module h reason hook left a : Exec ε _).ending =
      (s.runStage module h' reason hook left a').ending := by
  refine Exec.ending_bind_congr (Exec.ending_contained_congr hact.ending_eq) fun found => ?_
  exact Exec.ending_bind_congr (Exec.ending_cleanedBy_congr hact.settle (ha.drop left).unnamed)
    fun _ => rfl

theorem ending_runBody_congr (ha : s.Agrees h h') (module method : String) {b b' : Body σ}
    (hb : Body.Agrees h h' b b') (x : σ) :
    (s.runBody module h method b x : Exec ε _).ending =
      (s.runBody module h' method b' x).ending := by
  obtain ⟨hx, hact⟩ := hb x
  obtain ⟨hleft, htear⟩ := ha.tearDown (b h x).1
  unfold runBody
  dsimp only
  -- The body left the same instance in both processes, and so does the tear-down.
  rw [← hx, ← hleft]
  refine Exec.ending_bind_congr (ending_runStage_congr ha hact ..) fun ofBody => ?_
  refine Exec.ending_bind_congr (ending_runStage_congr ha htear ..) fun ofTearDown => ?_
  exact Exec.ending_bind_congr (ha.drop _).unnamed fun _ => rfl

theorem ending_abandon_congr (ha : s.Agrees h h') {a a' : Act Failure Unit} (hact : a.Agrees Eq a')
    (left : σ) (c : Exec.Caught Failure) :
    (s.abandon h left a c : Exec ε _).ending = (s.abandon h' left a' c).ending := by
  have hdrop := ha.drop left
  cases c with
  | failed f =>
    refine Exec.ending_bind_congr (Exec.ending_contained_congr hdrop.unnamed) fun dropped => ?_
    rcases dropped with (e | m) | u
    · exact e.elim
    · exact Exec.ending_bind_congr (Aftermath.ending_run_congr hdrop.dropping) fun _ => rfl
    · exact Exec.ending_bind_congr hact.writeError fun _ => rfl
  | panicked m =>
    refine Exec.ending_bind_congr (Exec.ending_whilePanicking_congr hdrop.unnamed) fun _ => ?_
    exact Exec.ending_bind_congr (Aftermath.ending_run_congr hact.dropping) fun _ => rfl

/-- The same problems are found in both processes. -/
theorem ending_runStages_congr (ha : s.Agrees h h') (module method : String) {b b' : Body σ}
    (hb : Body.Agrees h h' b b') :
    (s.runStages module h method b : Exec ε _).ending =
      (s.runStages module h' method b').ending := by
  unfold runStages
  refine Exec.ending_bind_congr (Exec.ending_contained_congr ha.construct.ending_eq) fun built => ?_
  -- Building panics or finishes: there is no error for it to fail with.
  rcases built with (e | m) | fresh
  · exact e.elim
  · exact Exec.ending_bind_congr (Aftermath.ending_run_congr ha.construct.dropping) fun _ => rfl
  · obtain ⟨hx, hact⟩ := ha.setUp fresh
    refine Exec.ending_bind_congr (Exec.ending_contained_congr hact.ending_eq) fun ready => ?_
    rw [← hx]
    cases ready with
    | error c => exact ending_abandon_congr ha hact _ c
    | ok u => exact ending_runBody_congr ha module method hb _

/-- **A case adds the same to a report in both processes**, durations aside. -/
theorem runCase_alike (ha : s.Agrees h h') (module method : String) {b b' : Body σ}
    (hb : Body.Agrees h h' b b') (id : TestId) {r r' : Report} (hr : r.untimed = r'.untimed) :
    (s.runCase module h method b id r : Exec ε _).Alike (fun r r' => r.untimed = r'.untimed)
      (s.runCase module h' method b' id r') := by
  have hs : (s.runStages module h method b : Exec ε _).timed.Alike (fun p q => p.1 = q.1)
      (s.runStages module h' method b').timed := by
    apply (Exec.alike_eq_iff.2 (ending_runStages_congr ha module method hb)).bind
    rintro p q rfl
    exact Exec.alike_pure rfl
  unfold runCase
  apply hs.bind
  rintro ⟨ps, n⟩ ⟨qs, n'⟩ (rfl : ps = qs)
  -- The problems are the same, and the elapsed times are left out.
  apply Exec.alike_pure
  rw [Report.untimed_addDuration, Report.untimed_addDuration,
    Report.untimed_foldl_add (fun p : Problem => ⟨id, p.reason, p.message⟩),
    Report.untimed_foldl_add (fun p : Problem => ⟨id, p.reason, p.message⟩),
    Report.untimed_startTest, Report.untimed_startTest, hr]

end Suite

namespace Registry

variable {r : Registry σ}

theorem runId_alike {s : Suite σ} {h h' : Host} (ha : s.Agrees h h') (module : String)
    (id : TestId) {q q' : Report} (hq : q.untimed = q'.untimed) :
    (runId module s h q id).Alike (fun r r' => r.untimed = r'.untimed)
      (runId module s h' q' id) :=
  (Suite.bind_alike ha module _).bind fun _ _ hb => Suite.runCase_alike ha module _ hb id hq

theorem runGroup_alike (hr : r.IgnoresHost) (h h' : Host) (g : String × List TestId)
    {q q' : Report} (hq : q.untimed = q'.untimed) :
    (r.runGroup h q g).Alike (fun r r' => r.untimed = r'.untimed) (r.runGroup h' q' g) := by
  unfold runGroup
  cases hl : r.loadSuite g.1 with
  | error e => exact .failed e
  | ok p =>
    obtain ⟨module, s⟩ := p
    have ha := hr s (hasSuite_of_loadSuite hl) h h'
    exact Exec.Alike.foldlM g.2 (fun q q' hq id _ => runId_alike ha module id hq) hq

/-- **Ids are run alike in all processes**, durations aside. -/
theorem runIds_alike (hr : r.IgnoresHost) (h h' : Host) (ids : List TestId) :
    (r.runIds h ids).Alike (fun r r' => r.untimed = r'.untimed) (r.runIds h' ids) := by
  unfold runIds
  cases groupIds ids with
  | error e => exact .failed e
  | ok groups =>
    exact Exec.Alike.foldlM groups (fun q q' hq g _ => runGroup_alike hr h h' g hq) rfl

end Registry

/-! ## Discovering alike -/

/-- A getter that resolves alike is inspected alike. -/
theorem ending_inspectMember_congr {h h' : Host} {m : String × Member σ}
    (hm : ∀ resolve, m.2 = .getter resolve → (resolve h).Agrees (fun _ _ => True) (resolve h'))
    (module suite : String) :
    (inspectMember module suite h m : Exec ε _).ending =
      (inspectMember module suite h' m).ending := by
  obtain ⟨name, member⟩ := m
  cases member with
  | method body => rfl
  | value => rfl
  | getter resolve =>
    have hg := hm resolve rfl
    have hasked : ((resolve h).run module suite (.resolve name)).Alike (fun _ _ => True)
        ((resolve h').run module suite (.resolve name)) := hg.ending
    refine Exec.alike_eq_iff.1 (hasked.attempt.bind ?_)
    rintro _ _ (⟨body, body', rfl, rfl, -⟩ | ⟨f, rfl, rfl⟩)
    · exact Exec.alike_eq_iff.2 rfl
    · exact Exec.alike_eq_iff.2 (Exec.ending_bind_congr hg.writeError fun _ => rfl)

theorem ending_idsOfItem_congr {r : Registry σ} (hr : r.ResolvesAlike) {m : Module σ}
    (hm : m ∈ r.modules) {item : Item σ} (hi : item ∈ m.items) (module : String) (h h' : Host) :
    (idsOfItem module h item : Exec ε _).ending = (idsOfItem module h' item).ending := by
  cases item with
  | plainClass n => rfl
  | value n => rfl
  | suite s =>
    simp only [idsOfItem]
    split_ifs
    · rfl
    · refine Exec.ending_bind_congr ?_ fun _ => rfl
      -- The ids of the members are made of their inspections, in any process.
      apply Exec.ending_mapM_congr s.members
      rintro ⟨name, member⟩ hmem
      refine ending_inspectMember_congr ?_ module s.name
      rintro resolve rfl
      exact hr s ⟨m, hm, hi⟩ name resolve hmem h h'

namespace Registry

variable {r : Registry σ}

theorem ending_discoverModule_congr (hr : r.ResolvesAlike) (h h' : Host) (name : String) :
    (r.discoverModule h name).ending = (r.discoverModule h' name).ending := by
  unfold discoverModule
  apply Exec.ending_bind_congr_right _
  intro m hm
  have hmem : m ∈ r.modules := mem_of_loadModule (Exec.finished_ofExcept hm)
  refine Exec.ending_bind_congr ?_ fun _ => rfl
  exact Exec.ending_mapM_congr m.items fun item hi =>
    ending_idsOfItem_congr hr hmem hi name h h'

/-- **Files are discovered alike in all processes.** -/
theorem ending_discoverFile_congr (hr : r.ResolvesAlike) (t : FileTree) (h h' : Host)
    (modulePath : List Path) (file : Path) :
    (r.discoverFile t h modulePath file).ending = (r.discoverFile t h' modulePath file).ending := by
  unfold discoverFile
  exact Exec.ending_bind_congr rfl fun name => ending_discoverModule_congr hr h h' name

end Registry

/-! ## What is run and discovered -/

section Composition

variable {P : (α : Type) → Exec Error α → Prop} {r : Registry σ} {h : Host}

/-- A property that is kept is one of a case in a run, if the code of its suite has it. -/
theorem Exec.IsCleanable.runId (hP : Exec.IsCleanable P)
    (hfail : ∀ {α : Type} (e : Error), P α (.fail e)) {s : Suite σ} (hs : s.Has P h)
    (module : String) (id : TestId) (q : Report) : P _ (Registry.runId module s h q id) := by
  refine hP.bind (hP.bindMember hfail hs module _) fun b hb => ?_
  -- A case only adds its problems and its time to the report.
  have hstages := hP.runStages hs.toHasStages (hs.of_bind hb) module (id.method?.getD "")
  exact hP.bind (hP.bind hstages fun _ _ => hP.pure _) fun _ _ => hP.pure _

/-- **A property that is kept is one of runs**, if the code of the suites that are found has it. -/
theorem Exec.IsCleanable.runIds (hP : Exec.IsCleanable P)
    (hfail : ∀ {α : Type} (e : Error), P α (.fail e)) (hs : ∀ s, r.HasSuite s → s.Has P h)
    (ids : List TestId) : P _ (r.runIds h ids) := by
  refine hP.bind (hP.ofExcept hfail _) fun groups _ => ?_
  refine hP.foldlM groups (fun q g _ => ?_) _
  -- A group that is run has a suite, and the suite is registered.
  apply hP.bind (hP.ofExcept hfail _)
  rintro ⟨module, s⟩ hl
  have hsuite := hs s (Registry.hasSuite_of_loadSuite (Exec.finished_ofExcept hl))
  exact hP.foldlM g.2 (fun q id _ => hP.runId hfail hsuite module id q) q

/-- **A property that is kept is one of discoveries**, if getters have it, and warnings. -/
theorem Exec.IsCleanable.discoverFile (hP : Exec.IsCleanable P)
    (hfail : ∀ {α : Type} (e : Error), P α (.fail e))
    (hg : ∀ s, r.HasSuite s → ∀ name resolve, (name, .getter resolve) ∈ s.members →
      (resolve h).HasAsked P)
    (hwarned : ∀ w, P _ (Exec.emit (.warned w))) (t : FileTree) (modulePath : List Path)
    (file : Path) : P _ (r.discoverFile t h modulePath file) := by
  refine hP.bind (hP.ofExcept hfail _) fun name _ => ?_
  refine hP.bind (hP.ofExcept hfail _) fun m hm => ?_
  have hmem : m ∈ r.modules := Registry.mem_of_loadModule (Exec.finished_ofExcept hm)
  refine hP.bind (hP.mapM m.items fun item hi => ?_) fun _ _ => hP.pure _
  cases item with
  | plainClass n => exact hP.pure _
  | value n => exact hP.pure _
  | suite s =>
    simp only [idsOfItem]
    split_ifs
    · exact hP.pure _
    · -- All members are inspected before the ids of any are made.
      refine hP.bind (hP.mapM s.members fun member hmember => ?_) fun members _ =>
        hP.bind (hP.mapM members fun member _ => ?_) fun _ _ => hP.pure _
      · obtain ⟨name', member⟩ := member
        refine hP.inspectMember ?_ name s.name
        rintro resolve rfl
        exact hg s ⟨_, hmem, hi⟩ name' resolve hmember
      · unfold idsOfMember
        split_ifs
        · cases member.2 with
          | callable => exact hP.pure _
          | notCallable => exact hP.bind (hwarned _) fun _ _ => hP.pure _
          | unreadable reason => exact hP.bind (hwarned _) fun _ _ => hP.pure _
        · exact hP.pure _

end Composition

/-! ## Orderly runs -/

/-- Does an act never end its process, and does the code behind it finish? -/
def Act.Stays (a : Act φ α) : Prop := a.ending.isExit = false ∧ a.IsClean

/-- Does a body never end its process, and does the code behind it finish? -/
def Body.Stays (h : Host) (b : Body σ) : Prop := ∀ x, (b h x).2.Stays

/-- **Does a member never end its process**, and its getter never panic? -/
def Member.IsTame (h : Host) : Member σ → Prop
  | .method body => body.Stays h
  | .value => True
  | .getter resolve => (resolve h).ending.IsOrderly ∧ (resolve h).IsClean ∧
      ∀ b, (resolve h).ending = .finished b → Body.Stays h b

/-- **Does no hook of a suite end its process**, no getter panic, and no panic leave a case? -/
structure Suite.IsTame (s : Suite σ) (h : Host) : Prop where
  /-- Building an instance does not end the process. -/
  construct : (s.construct h).Stays
  /-- Neither does setting it up. -/
  setUp : Body.Stays h s.setUp
  /-- Neither does tearing it down. -/
  tearDown : Body.Stays h s.tearDown
  /-- Every instance can be dropped. -/
  drop : ∀ x, (s.drop h x).ending = .finished ()
  /-- A member does not end the process. -/
  members : ∀ m ∈ s.members, m.2.IsTame h

/-- **Does no hook end a process**, no getter panic, and no panic leave a case? -/
def Registry.IsTame (r : Registry σ) : Prop := ∀ s, r.HasSuite s → ∀ h, s.IsTame h

/-- The same in one process. -/
def Registry.IsTameIn (r : Registry σ) (h : Host) : Prop := ∀ s, r.HasSuite s → s.IsTame h

theorem Registry.IsTame.isTameIn {r : Registry σ} (hr : r.IsTame) (h : Host) : r.IsTameIn h :=
  fun s hs => hr s hs h

/-- **Does no getter panic or end a process**, nor the code behind it? -/
def Registry.HasTameGetters (r : Registry σ) : Prop :=
  ∀ s, r.HasSuite s → ∀ name resolve, (name, .getter resolve) ∈ s.members →
    ∀ h, (resolve h).ending.IsOrderly ∧ (resolve h).IsClean

/-- The same in one process. -/
def Registry.HasTameGettersIn (r : Registry σ) (h : Host) : Prop :=
  ∀ s, r.HasSuite s → ∀ name resolve, (name, .getter resolve) ∈ s.members →
    (resolve h).ending.IsOrderly ∧ (resolve h).IsClean

theorem Registry.IsTameIn.hasTameGettersIn {r : Registry σ} {h : Host} (hr : r.IsTameIn h) :
    r.HasTameGettersIn h := by
  intro s hs name resolve hm
  obtain ⟨ho, hc, -⟩ := (hr s hs).members _ hm
  exact ⟨ho, hc⟩

theorem Registry.HasTameGetters.hasTameGettersIn {r : Registry σ} (hr : r.HasTameGetters)
    (h : Host) : r.HasTameGettersIn h :=
  fun s hs name resolve hm => hr s hs name resolve hm h

theorem Registry.IsTame.hasTameGetters {r : Registry σ} (hr : r.IsTame) : r.HasTameGetters :=
  fun s hs name resolve hm h => (hr.isTameIn h).hasTameGettersIn s hs name resolve hm

/-- An act that stays has orderly pieces only. -/
theorem Act.Stays.has_isOrderly {a : Act φ α} (ha : a.Stays) :
    a.Has fun α (x : Exec ε α) => x.ending.IsOrderly where
  caught _ _ _ := Exec.isOrderly_contained ha.1
  writing := Aftermath.isOrderly_run ha.2.writing
  dropping := Aftermath.isOrderly_run ha.2.dropping

theorem Act.hasAsked_isOrderly {a : Act φ α} (ho : a.ending.IsOrderly) (hc : a.IsClean) :
    a.HasAsked fun α (x : Exec ε α) => x.ending.IsOrderly where
  asked _ _ _ := Exec.isOrderly_attempt ho
  writing := Aftermath.isOrderly_run hc.writing
  dropping := Aftermath.isOrderly_run hc.dropping

/-- A tame suite has orderly pieces only. -/
theorem Suite.IsTame.has_isOrderly {s : Suite σ} {h : Host} (hs : s.IsTame h) :
    s.Has (fun α (x : Exec ε α) => x.ending.IsOrderly) h where
  construct := hs.construct.has_isOrderly
  setUp x := (hs.setUp x).has_isOrderly
  tearDown x := (hs.tearDown x).has_isOrderly
  drop x := Aftermath.isOrderly_run (hs.drop x)
  caughtDrop x :=
    Exec.isOrderly_contained (congrArg Ending.isExit (Act.finished_unnamed_iff.2 (hs.drop x)))
  dropping x m hm := by rw [hs.drop x] at hm; cases hm
  members := by
    rintro ⟨name, member⟩ hm
    have hmember := hs.members _ hm
    cases member with
    | method body => exact fun x => (hmember x).has_isOrderly
    | value => trivial
    | getter resolve =>
      obtain ⟨ho, hc, hstays⟩ := hmember
      exact ⟨Act.hasAsked_isOrderly ho hc, fun b hb x => (hstays b hb x).has_isOrderly⟩

namespace Registry

variable {r : Registry σ} {h : Host}

/-- **A run of ids ends orderly** if all suites are tame. -/
theorem isOrderly_runIds (hr : r.IsTameIn h) (ids : List TestId) :
    (r.runIds h ids).ending.IsOrderly :=
  Exec.isCleanable_isOrderly.runIds .failed (fun s hs => (hr s hs).has_isOrderly) ids

/-- **The discovery of a file ends orderly** if all getters are tame. -/
theorem isOrderly_discoverFile (hr : r.HasTameGettersIn h) (t : FileTree)
    (modulePath : List Path) (file : Path) :
    (r.discoverFile t h modulePath file).ending.IsOrderly := by
  refine Exec.isCleanable_isOrderly.discoverFile .failed (fun s hs name resolve hm => ?_)
    (fun _ => .finished ()) t modulePath file
  obtain ⟨ho, hc⟩ := hr s hs name resolve hm
  exact Act.hasAsked_isOrderly ho hc

end Registry

end SuitePool
