import Mathlib.Data.List.Basic
import Mathlib.Tactic.Common
import SuitePool.Proofs.Forked.Discovery
import SuitePool.Proofs.Forked.Run
import SuitePool.Proofs.Pool.Schedule

/-!
# Forked services of a session

A session that starts its own program as its workers runs and discovers ids in its pool, whose crew
schedules the slots in turns.  As long as tasks are quiet each forked service ends with what a
forked run or discovery may come to, given the same service in the session's own process, and leaves
the session as it was but for the tasks that its pool was given.

## Main definitions

* `Session.IsSound`: the invariant.

## Main results

* `Session.runAgrees_runIds`: running forked agrees with running.
* `Session.discoveryAgrees_discoverIds`: discovering forked agrees with discovering.
-/

namespace SuitePool

open Pool Text

variable {σ : Type}

/-- The tasks of a forked run of ids; there are none if ids cannot be grouped. -/
def runTasksOf (ids : List TestId) : List Task :=
  match groupIds ids with
  | .error _ => []
  | .ok groups => runTasks groups

namespace Session

/-- **Is a session in order**, whose pool was given these tasks? -/
structure IsSound [Wording] (submitted : List Task) (s : Session σ) : Prop where
  /-- Its workers run its own program. -/
  program : s.program? = .ok (ownProgram s.processors s.site)
  /-- Its pool is in order, or still to be opened. -/
  crew : (s.crew.getD (.ofSize s.poolSize)).IsSound (ownProgram s.processors s.site) submitted
    s.poolSize

/-- A session is in order at its start, if no other program is named. -/
theorem isSound_of_crew_eq_none [Wording] {s : Session σ} (hcrew : s.crew = none)
    (hcommand : s.command = none) (hworker : s.settings.workerCommand = none) :
    s.IsSound [] where
  program := by
    rw [program?, hcommand, hworker]
    rfl
  crew := by
    have h := Crew.isSound_ofSize (ownProgram s.processors s.site) s.poolSize
    rw [show max 1 s.poolSize = s.poolSize by unfold poolSize Settings.poolSize; omega] at h
    rwa [hcrew, Option.getD_none]

variable {submitted : List Task} {s : Session σ}

theorem openPool_of_isSound [Wording] (h : s.IsSound submitted) :
    s.openPool = .ok (s.crew.getD (.ofSize s.poolSize), ownProgram s.processors s.site) := by
  rw [openPool, h.program]
  rfl

/-- A session stays in order when its pool does. -/
theorem isSound_with_crew [Wording] (h : s.IsSound submitted) {tasks : List Task} {crew : Crew}
    (hc : crew.IsSound (ownProgram s.processors s.site) tasks s.poolSize) :
    ({ s with crew := some crew } : Session σ).IsSound tasks :=
  ⟨h.program, hc⟩

/-- **A call of the pool comes to an outcome** of the tasks that it gives the pool. -/
theorem outcome?_call [Wording] {α : Type} (read : Json → Except String α) (h : s.IsSound submitted)
    {ts : List Task} (hquiet : ∀ t ∈ submitted ++ ts, ∀ i, t.IsQuiet (s.site.forSlot i)) :
    (s.call read (.ok ts)).1.IsSound (submitted ++ ts) ∧
      ∃ p numbers, Pool.IsSound (ownProgram s.processors s.site) (submitted ++ ts) p ∧
        p.slots.length = s.poolSize ∧ IsCall (submitted ++ ts) ts numbers ∧
        Crew.outcome? read p numbers = some (s.call read (.ok ts)).2 := by
  obtain ⟨hs, ho⟩ := Crew.outcome?_call read h.crew
    fun t ht i => isTidy_ownProgram s.processors (hquiet t ht i)
  rw [call, openPool_of_isSound h]
  exact ⟨isSound_with_crew h hs, _, _, hs.pool, hs.length_slots, Crew.isCall_range .., ho⟩

/-- **Running forked agrees with running.**  The forked run of ids ends with what a forked run may
come to, given the run of the ids in the session's own process, and the session stays in order. -/
theorem runAgrees_runIds [Wording] (h : s.IsSound submitted) (hhost : s.site.registry.IgnoresHost)
    (htame : s.site.registry.IsTame) {ids : List TestId}
    (hquiet : ∀ t ∈ submitted ++ runTasksOf ids, ∀ i, t.IsQuiet (s.site.forSlot i)) :
    (s.runIds ids true).1.IsSound (submitted ++ runTasksOf ids) ∧
      ∃ o, (s.runIds ids true).2 = .ofExcept o ∧
        RunAgrees s.site.registry s.site.host ids (s.poolSize = 1) o := by
  cases hg : groupIds ids with
  | error e =>
    -- The pool is opened but given nothing.
    rw [runTasksOf, hg, List.append_nil] at hquiet ⊢
    have hcall : s.runIds ids true =
        ({ s with crew := some (s.crew.getD (.ofSize s.poolSize)) }, .ofExcept (.error e)) := by
      simp only [runIds, call, openPool_of_isSound h, hg, if_true]
      rfl
    have hforked : forkedRun? ids [] (s.crew.getD (.ofSize s.poolSize)).pool =
        some (.error e) := by
      rw [forkedRun?, hg]
    rw [hcall]
    refine ⟨isSound_with_crew h h.crew, .error e, rfl, ?_⟩
    rw [← h.crew.length_slots]
    refine runAgrees_of_forkedRun? hhost htame hquiet h.crew.pool ?_ s.site.host hforked
    intro groups hgroups
    rw [hg] at hgroups
    cases hgroups
  | ok groups =>
    -- The pool is given a task for each group, and the outcome of the call is merged.
    rw [runTasksOf, hg] at hquiet ⊢
    obtain ⟨hs, p, numbers, hp, hsize, hc, ho⟩ := outcome?_call Crew.readReport h hquiet
    have hcall : s.runIds ids true = ((s.call Crew.readReport (.ok (runTasks groups))).1,
        .ofExcept ((s.call Crew.readReport (.ok (runTasks groups))).2.map .mergeAll)) := by
      simp only [runIds, hg, if_true]
      rfl
    have hforked : forkedRun? ids numbers p =
        some ((s.call Crew.readReport (.ok (runTasks groups))).2.map .mergeAll) := by
      simp only [forkedRun?, hg, ho, Option.map_some]
    rw [hcall]
    refine ⟨hs, _, rfl, ?_⟩
    rw [← hsize]
    refine runAgrees_of_forkedRun? hhost htame hquiet hp ?_ s.site.host hforked
    intro groups' hgroups
    rw [hg, Except.ok.injEq] at hgroups
    exact hgroups ▸ hc

/-- **Discovering forked agrees with discovering.**  The forked discovery of files with readable
paths ends with what a forked discovery may come to, given the discovery of the files in the
session's own process, and the session stays in order. -/
theorem discoveryAgrees_discoverIds [Wording] (h : s.IsSound submitted)
    (hres : s.site.registry.ResolvesAlike) (htame : s.site.registry.HasTameGetters)
    {files : List Path}
    (hquiet : ∀ t ∈ submitted ++ discoveryTasks files s.settings.modulePath, ∀ i,
      t.IsQuiet (s.site.forSlot i))
    (hfiles : ∀ file ∈ files, (text? file.bytes).isSome)
    (hroots : ∀ root ∈ s.settings.modulePath, (text? root.bytes).isSome) :
    (s.discoverIds files true).1.IsSound
        (submitted ++ discoveryTasks files s.settings.modulePath) ∧
      ∃ o, (s.discoverIds files true).2 = .ofExcept o ∧
        DiscoveryAgrees s.site.registry s.site.tree s.site.host s.settings.modulePath files
          (s.poolSize = 1) o := by
  obtain ⟨hs, p, numbers, hp, hsize, hc, ho⟩ := outcome?_call Crew.readIds h hquiet
  refine ⟨hs, _, rfl, ?_⟩
  rw [← hsize]
  apply discoveryAgrees_of_forkedDiscovery? hres htame hquiet hfiles hroots hp hc s.site.host
  rw [forkedDiscovery?, ho]
  rfl

end Session

end SuitePool
