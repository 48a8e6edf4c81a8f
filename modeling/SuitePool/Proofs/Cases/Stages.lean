import Mathlib.Data.List.Basic
import Mathlib.Data.List.Perm.Basic
import Mathlib.Tactic.Common
import SuitePool.Proofs.Aftermath
import SuitePool.Proofs.Run

/-!
# Running ids one by one

Grouping only changes the order of ids, and a suite that is loaded once for a group is the one that
each id of the group names.  So a run of ids is a run of each of them, one after the other: it goes
on as long as the stages of the cases come to problems, and otherwise ends as the first stages do
that come to none.

## Main definitions

* `Registry.suiteOf`: the suite of an id.
* `Registry.stagesOf`: the stages of the case of an id.
* `Registry.runOne`: one id in a run.
* `Report.record`: one more case in a report.
* `Exec.Succeeds`: a run that finishes without a problem.
* `Suite.StagesReturn`, `Registry.Passes`: cases that pass.

## Main results

* `perm_of_groupIds`: grouping only changes the order of ids.
* `Registry.runIds_eq_foldlM`: a run of ids is a run of each of them.
* `Registry.alike_runOne`: one id in a run ends as the stages of its case.
* `Report.successful_record`: no problem is dropped.
* `Suite.ending_runStages_nil_iff`: stages come to no problem exactly if they all return and the
  instance is dropped.
* `Registry.succeeds_runIds_iff`: a run succeeds exactly if the cases of all ids pass.
-/

namespace SuitePool

variable {σ ε α β : Type}

/-! ## The order of a run -/

theorem perm_addToGroup (suite : String) (id : TestId) (groups : Groups) :
    ((addToGroup suite id groups).flatMap (·.2)).Perm (id :: groups.flatMap (·.2)) := by
  induction groups with
  | nil => exact .refl _
  | cons g groups ih =>
    obtain ⟨key, ids⟩ := g
    rw [addToGroup]
    -- The id opens a group before this one, joins it, or goes on to the others.
    split_ifs with hlt heq
    · exact .refl _
    · simp only [List.flatMap_cons, List.append_assoc, List.singleton_append]
      exact List.perm_middle
    · rw [List.flatMap_cons, List.flatMap_cons]
      exact (ih.append_left ids).trans List.perm_middle

theorem perm_foldlM_addId (ids : List TestId) {before groups : Groups}
    (h : ids.foldlM addId before = .ok groups) :
    (groups.flatMap (·.2)).Perm (before.flatMap (·.2) ++ ids) := by
  induction ids generalizing before with
  | nil =>
    cases h
    simp
  | cons id ids ih =>
    rw [List.foldlM_cons, addId] at h
    cases hid : id.suitePath? with
    | none => rw [hid] at h; cases h
    | some suite =>
      rw [hid] at h
      exact (ih h).trans (((perm_addToGroup suite id before).append_right ids).trans
        List.perm_middle.symm)

/-- **Grouping only changes the order of ids.** -/
theorem perm_of_groupIds {ids : List TestId} {groups : Groups} (h : groupIds ids = .ok groups) :
    (groups.flatMap (·.2)).Perm ids :=
  perm_foldlM_addId ids h

/-! ## One id -/

/-- **One more case in a report**, with its problems. -/
def Report.record (q : Report) (id : TestId) (problems : List Problem) : Report :=
  problems.foldl (fun r p => r.add ⟨id, p.reason, p.message⟩) q.startTest

namespace Registry

/-- **The suite of an id**, with the name of its module. -/
def suiteOf (r : Registry σ) (id : TestId) : Except Error (String × Suite σ) :=
  match id.suitePath? with
  | none => .error (.invalidTestId id.text)
  | some path => r.loadSuite path

/-- **The stages of the case of an id.** -/
def stagesOf (r : Registry σ) (host : Host) (id : TestId) : Exec Error (List Problem) := do
  let (module, suite) ← Exec.ofExcept (r.suiteOf id)
  let method := id.method?.getD ""
  let body ← suite.bind module host method
  suite.runStages module host method body

/-- **One id in a run.** -/
def runOne (r : Registry σ) (host : Host) (q : Report) (id : TestId) : Exec Error Report := do
  let (module, suite) ← Exec.ofExcept (r.suiteOf id)
  runId module suite host q id

end Registry

/-- A case ends as its stages, and extends the report by their problems. -/
theorem Suite.alike_runCase (s : Suite σ) (module : String) (host : Host) (method : String)
    (body : Body σ) (id : TestId) (q : Report) :
    (s.runCase module host method body id q : Exec ε Report).Alike
      (fun q' ps => ∃ n, q' = (q.record id ps).addDuration n)
      (s.runStages module host method body) := by
  rw [runCase, Exec.timed]
  generalize (s.runStages module host method body : Exec ε (List Problem)) = x
  obtain ⟨events, elapsed, ending⟩ := x
  cases ending with
  | finished ps => exact .finished ⟨elapsed, rfl⟩
  | failed e => exact .failed e
  | panicked m => exact .panicked m
  | exited c => exact .exited c

namespace Registry

variable {r : Registry σ} {host : Host}

/-- **One id in a run ends as the stages of its case**, and extends the report by their problems. -/
theorem alike_runOne (r : Registry σ) (host : Host) (q : Report) (id : TestId) :
    (r.runOne host q id).Alike (fun q' ps => ∃ n, q' = (q.record id ps).addDuration n)
      (r.stagesOf host id) := by
  refine (Exec.alike_eq_iff.2 rfl).bind ?_
  rintro ⟨module, suite⟩ _ rfl
  refine (Exec.alike_eq_iff.2 rfl).bind ?_
  rintro body _ rfl
  exact suite.alike_runCase module host _ body id q

/-- The code of a group: its ids are run one by one. -/
theorem runGroup_eq_foldlM (r : Registry σ) (host : Host) (q : Report)
    {g : String × List TestId} (hg : IsGroup g) :
    r.runGroup host q g = g.2.foldlM (r.runOne host) q := by
  obtain ⟨path, ids⟩ := g
  obtain ⟨hne, hpath⟩ := hg
  have hsuite : ∀ id ∈ ids, r.suiteOf id = r.loadSuite path := by
    intro id hid
    rw [suiteOf, hpath id hid]
  rw [runGroup]
  cases hl : r.loadSuite path with
  | ok p =>
    obtain ⟨module, suite⟩ := p
    rw [Exec.ofExcept, pure_bind]
    dsimp only
    -- Every id finds the suite that was loaded for all.
    clear hne hpath
    induction ids generalizing q with
    | nil => rfl
    | cons id ids ih =>
      rw [List.forall_mem_cons] at hsuite
      rw [List.foldlM_cons, List.foldlM_cons, runOne, hsuite.1, hl, Exec.ofExcept, pure_bind]
      exact bind_congr fun q' => ih q' hsuite.2
  | error e =>
    -- The first id fails as the group does.
    obtain ⟨id, ids, rfl⟩ := List.exists_cons_of_ne_nil hne
    rw [List.foldlM_cons, runOne, hsuite id (List.mem_cons_self ..), hl]
    rfl

/-- **A run of ids is a run of each of them**, in the order of their groups. -/
theorem runIds_eq_foldlM (r : Registry σ) (host : Host) {ids : List TestId} {groups : Groups}
    (hg : groupIds ids = .ok groups) :
    r.runIds host ids = (groups.flatMap (·.2)).foldlM (r.runOne host) .empty := by
  rw [runIds_of_groupIds hg]
  have hgroups := isGroup_of_mem_groupIds hg
  -- What is so from the empty report is so from any other.
  generalize Report.empty = q
  clear hg
  induction groups generalizing q with
  | nil => rfl
  | cons g groups ih =>
    rw [List.forall_mem_cons] at hgroups
    rw [List.foldlM_cons, List.flatMap_cons, List.foldlM_append,
      r.runGroup_eq_foldlM host q hgroups.1]
    exact bind_congr fun q' => ih hgroups.2 q'

end Registry

/-! ## Reports of runs -/

namespace Report

variable (q : Report) (id : TestId)

theorem testsRun_record (ps : List Problem) : (q.record id ps).testsRun = q.testsRun + 1 := by
  unfold record
  rw [show q.testsRun + 1 = q.startTest.testsRun from rfl]
  generalize q.startTest = s
  induction ps generalizing s with
  | nil => rfl
  | cons p ps ih =>
    rw [List.foldl_cons, ih, add]
    split_ifs <;> rfl

theorem successful_add (f : CaseFailure) : (q.add f).successful = false := by
  rw [add]
  split_ifs <;> simp [successful]

theorem successful_foldl_add (ps : List Problem) (hq : q.successful = false) :
    (ps.foldl (fun r p => r.add ⟨id, p.reason, p.message⟩) q).successful = false := by
  induction ps generalizing q with
  | nil => exact hq
  | cons p ps ih => exact ih _ (q.successful_add _)

/-- **No problem is dropped**: a report with one more case is successful only if it was so before,
and the case has no problem. -/
theorem successful_record (ps : List Problem) :
    (q.record id ps).successful = true ↔ q.successful = true ∧ ps = [] := by
  unfold record
  cases ps with
  | nil => simp [successful, startTest]
  | cons p ps =>
    have h := (q.startTest.add ⟨id, p.reason, p.message⟩).successful_foldl_add id ps
      (q.startTest.successful_add _)
    simp [h]

end Report

/-! ## Success -/

/-- **Does a run succeed?**  It finishes, and no case went wrong. -/
def Exec.Succeeds (x : Exec ε Report) : Prop := ∃ q, x.ending = .finished q ∧ q.successful = true

/-- **Do all stages of a case return** without an error, and is its instance dropped? -/
def Suite.StagesReturn (s : Suite σ) (host : Host) (body : Body σ) : Prop :=
  ∃ fresh, (s.construct host).ending = .finished fresh ∧
    (s.setUp host fresh).2.ending = .finished () ∧
    (body host (s.setUp host fresh).1).2.ending = .finished () ∧
    (s.tearDown host (body host (s.setUp host fresh).1).1).2.ending = .finished () ∧
    (s.drop host (s.tearDown host (body host (s.setUp host fresh).1).1).1).ending = .finished ()

/-- **Does the case of an id pass?**  Its suite is found, its member has a body, and all stages
return. -/
def Registry.Passes (r : Registry σ) (host : Host) (id : TestId) : Prop :=
  ∃ module suite body, r.suiteOf id = .ok (module, suite) ∧
    (suite.bind module host (id.method?.getD "")).ending = .finished body ∧
    suite.StagesReturn host body

/-- A stage comes to no problem if it returns. -/
theorem finished_contained_nil {φ : Type} {x : Exec Failure Unit} {reason : Reason}
    {found : Except (Exec.Caught Failure) Unit}
    (h : (x.contained : Exec φ _).ending = .finished found)
    (hn : Problem.ofStage reason found = []) : x.ending = .finished () := by
  simp only [Exec.contained] at h
  cases hx : x.ending with
  | finished u => rfl
  | failed e => rw [hx] at h; cases h; cases hn
  | panicked m => rw [hx] at h; cases h; cases hn
  | exited c => rw [hx] at h; cases h

theorem ending_contained_of_finished {φ : Type} {x : Exec ε α} {a : α}
    (h : x.ending = .finished a) : (x.contained : Exec φ _).ending = .finished (.ok a) := by
  simp only [Exec.contained, h]

/-- A stage that is over has the problem of its hook, if it has one. -/
theorem Suite.problems_of_runStage {s : Suite σ} {module : String} {host : Host} {reason : Reason}
    {hook : Hook} {left : σ} {a : Act Failure Unit} {ps : List Problem}
    (h : (s.runStage module host reason hook left a : Exec ε _).ending = .finished ps) :
    ∃ found, ((a.run module s.name hook).contained : Exec ε _).ending = .finished found ∧
      ps = Problem.ofStage reason found := by
  obtain ⟨found, hfound, h⟩ := Exec.finished_of_bind h
  obtain ⟨u, -, h⟩ := Exec.finished_of_bind h
  exact ⟨found, hfound, (Ending.finished.inj h).symm⟩

/-- A stage comes to no problem exactly if its hook returns. -/
theorem Suite.ending_runStage_nil_iff {s : Suite σ} {module : String} {host : Host}
    {reason : Reason} {hook : Hook} {left : σ} {a : Act Failure Unit} :
    (s.runStage module host reason hook left a : Exec ε _).ending = .finished [] ↔
      a.ending = .finished () := by
  constructor
  · intro h
    obtain ⟨found, hfound, hnone⟩ := problems_of_runStage h
    exact finished_contained_nil hfound hnone.symm
  · intro ha
    have hsettle : (a.settle : Exec ε Unit) = pure () := by rw [Act.settle, ha]
    rw [runStage, Exec.ending_bind_of_finished (ending_contained_of_finished (a := ()) ha), hsettle,
      Exec.cleanedBy_of_isPanic_eq_false rfl, pure_bind]
    rfl

/-- A case whose set-up did not succeed has one problem. -/
theorem Suite.problem_of_abandon {s : Suite σ} {host : Host} {left : σ} {a : Act Failure Unit}
    {c : Exec.Caught Failure} {ps : List Problem}
    (h : (s.abandon host left a c : Exec ε _).ending = .finished ps) : ∃ p, ps = [p] := by
  cases c with
  | failed f =>
    obtain ⟨dropped, -, h⟩ := Exec.finished_of_bind h
    rcases dropped with (e | m) | u
    · exact e.elim
    · obtain ⟨u, -, h⟩ := Exec.finished_of_bind h
      exact ⟨_, (Ending.finished.inj h).symm⟩
    · obtain ⟨u, -, h⟩ := Exec.finished_of_bind h
      exact ⟨_, (Ending.finished.inj h).symm⟩
  | panicked m =>
    obtain ⟨u, -, h⟩ := Exec.finished_of_bind h
    obtain ⟨v, -, h⟩ := Exec.finished_of_bind h
    exact ⟨_, (Ending.finished.inj h).symm⟩

/-- **Stages come to no problem exactly if they all return**, and the instance is dropped. -/
theorem Suite.ending_runStages_nil_iff (s : Suite σ) (module : String) (host : Host)
    (method : String) (body : Body σ) :
    (s.runStages module host method body : Exec ε _).ending = .finished [] ↔
      s.StagesReturn host body := by
  unfold runStages
  constructor
  · intro h
    obtain ⟨built, hbuilt, h⟩ := Exec.finished_of_bind h
    -- Building has no error to fail with, and a panic of it would be a problem.
    rcases built with (e | m) | fresh
    · exact e.elim
    · obtain ⟨u, -, h⟩ := Exec.finished_of_bind h
      cases h
    · obtain ⟨ready, hready, h⟩ := Exec.finished_of_bind h
      cases ready with
      | error c =>
        obtain ⟨p, hp⟩ := problem_of_abandon h
        cases hp
      | ok u =>
        obtain ⟨ofBody, hbody, h⟩ := Exec.finished_of_bind h
        obtain ⟨ofTearDown, htear, h⟩ := Exec.finished_of_bind h
        obtain ⟨v, hdrop, h⟩ := Exec.finished_of_bind h
        -- The problems of both stages are put together, so neither has any.
        obtain ⟨rfl, rfl⟩ := List.append_eq_nil_iff.1 (Ending.finished.inj h)
        have hset : Problem.ofStage .setUp (.ok u) = [] := rfl
        refine ⟨fresh, ?_, finished_contained_nil hready hset, ending_runStage_nil_iff.1 hbody,
          ending_runStage_nil_iff.1 htear, Act.finished_unnamed_iff.1 hdrop⟩
        simp only [Exec.contained, Act.run] at hbuilt
        cases he : (s.construct host).ending <;> rw [he] at hbuilt <;> cases hbuilt
        rfl
  · rintro ⟨fresh, hbuilt, hready, hbody, htear, hdrop⟩
    rw [Exec.ending_bind_of_finished (ending_contained_of_finished (a := fresh) hbuilt)]
    dsimp only
    rw [Exec.ending_bind_of_finished (ending_contained_of_finished (a := ()) hready)]
    dsimp only [runBody]
    rw [Exec.ending_bind_of_finished (ending_runStage_nil_iff.2 hbody),
      Exec.ending_bind_of_finished (ending_runStage_nil_iff.2 htear),
      Exec.ending_bind_of_finished (Act.finished_unnamed_iff.2 hdrop)]
    rfl

namespace Registry

variable {r : Registry σ} {host : Host}

theorem ending_stagesOf_nil_iff {id : TestId} :
    (r.stagesOf host id).ending = .finished [] ↔ r.Passes host id := by
  constructor
  · intro h
    obtain ⟨⟨module, suite⟩, hsuite, h⟩ := Exec.finished_of_bind h
    obtain ⟨body, hbody, h⟩ := Exec.finished_of_bind h
    exact ⟨module, suite, body, Exec.finished_ofExcept hsuite, hbody,
      (suite.ending_runStages_nil_iff module host _ body).1 h⟩
  · rintro ⟨module, suite, body, hsuite, hbody, hstages⟩
    rw [stagesOf, hsuite, Exec.ofExcept, pure_bind]
    exact (Exec.ending_bind_of_finished hbody _).trans
      ((suite.ending_runStages_nil_iff module host _ body).2 hstages)

/-- One id in a run leaves a report successful exactly if its case passes. -/
theorem succeeds_runOne_iff {q : Report} {id : TestId} :
    (r.runOne host q id).Succeeds ↔ q.successful = true ∧ r.Passes host id := by
  have halike := r.alike_runOne host q id
  rw [← ending_stagesOf_nil_iff]
  unfold Exec.Alike at halike
  unfold Exec.Succeeds
  constructor
  · rintro ⟨q', hq', hs⟩
    rw [hq'] at halike
    cases he : (r.stagesOf host id).ending <;> rw [he] at halike <;> cases halike
    case finished ps h =>
      obtain ⟨n, rfl⟩ := h
      obtain ⟨hq, rfl⟩ := (q.successful_record id ps).1 hs
      exact ⟨hq, rfl⟩
  · rintro ⟨hq, he⟩
    rw [he] at halike
    cases hq' : (r.runOne host q id).ending <;> rw [hq'] at halike <;> cases halike
    case finished q' h =>
      obtain ⟨n, rfl⟩ := h
      exact ⟨_, rfl, (q.successful_record id []).2 ⟨hq, rfl⟩⟩

theorem succeeds_foldlM_runOne_iff {ids : List TestId} {q : Report} :
    (ids.foldlM (r.runOne host) q).Succeeds ↔
      q.successful = true ∧ ∀ id ∈ ids, r.Passes host id := by
  induction ids generalizing q with
  | nil =>
    constructor
    · rintro ⟨q', hq', hs⟩
      cases hq'
      exact ⟨hs, by simp⟩
    · rintro ⟨hq, -⟩
      exact ⟨q, rfl, hq⟩
  | cons id ids ih =>
    rw [List.foldlM_cons, List.forall_mem_cons, ← and_assoc, ← succeeds_runOne_iff]
    constructor
    · rintro ⟨q', hq', hs⟩
      -- The first id comes to a report that the others start from.
      obtain ⟨first, hfirst, hrest⟩ := Exec.finished_of_bind hq'
      obtain ⟨hsucc, hids⟩ := ih.1 ⟨q', hrest, hs⟩
      exact ⟨⟨first, hfirst, hsucc⟩, hids⟩
    · rintro ⟨⟨first, hfirst, hsucc⟩, hids⟩
      obtain ⟨q', hq', hs⟩ := ih.2 ⟨hsucc, hids⟩
      exact ⟨q', (Exec.ending_bind_of_finished hfirst _).trans hq', hs⟩

/-- **A run succeeds exactly if the cases of all ids pass.** -/
theorem succeeds_runIds_iff {ids : List TestId} :
    (r.runIds host ids).Succeeds ↔ ∀ id ∈ ids, r.Passes host id := by
  cases hg : groupIds ids with
  | ok groups =>
    rw [r.runIds_eq_foldlM host hg, succeeds_foldlM_runOne_iff]
    constructor
    · rintro ⟨-, h⟩ id hid
      exact h id ((perm_of_groupIds hg).mem_iff.2 hid)
    · intro h
      exact ⟨rfl, fun id hid => h id ((perm_of_groupIds hg).mem_iff.1 hid)⟩
  | error e =>
    -- An id without a dot ends the run, and has no suite.
    obtain ⟨id, hid, hpath, -⟩ := groupIds_eq_error hg
    constructor
    · rintro ⟨q, hq, -⟩
      rw [runIds, hg] at hq
      cases hq
    · intro h
      obtain ⟨module, suite, body, hsuite, -⟩ := h id hid
      rw [suiteOf, hpath] at hsuite
      cases hsuite

end Registry

end SuitePool
