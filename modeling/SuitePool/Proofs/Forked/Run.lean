import Mathlib.Data.List.Basic
import Mathlib.Data.List.Forall2
import Mathlib.Tactic.Common
import SuitePool.Proofs.Forked.Conveyed
import SuitePool.Proofs.Run

/-!
# Forked runs refine sequential ones

A forked run of ids gives each group of ids to the pool as a task of its own and merges the reports
that come back.  If the hooks of all suites depend on nothing but their instance, end no process and
print no marker, and no getter panics, then it comes to what a run in one process comes to: the same
report up to durations, or an error where that one fails.  Groups are run side by side, so of
several failing groups any may be the one whose error is told; with a single slot it is the first.

## Main definitions

* `forkedRun?`: what a forked run has come to.
* `RunAgrees`: what a forked run may come to.

## Main results

* `runAgrees_of_forkedRun?`: what a forked run comes to agrees with the sequential run.
* `forkedRun_refines`: forked runs refine sequential ones, and do come to something.
-/

namespace SuitePool

open Pool

variable {σ : Type} {site : Site σ} {processors : Nat}

/-! ## Forked runs -/

/-- The tasks of a forked run: one for each group. -/
def runTasks (groups : Groups) : List Task := groups.map fun g => .runTestIds g.2

/-- **What a forked run of ids has come to** on a pool, where its tasks have these numbers: at once
the error of grouping them, or the merged reports of all groups or the error of one of them.  A
session comes to this, too: see `Session.runAgrees_runIds`. -/
def forkedRun? [Wording] (ids : List TestId) (numbers : List Nat) (p : Pool) :
    Option (Except Error Report) :=
  match groupIds ids with
  | .error e => some (.error e)
  | .ok _ => (Crew.outcome? Crew.readReport p numbers).map fun reports => reports.map .mergeAll

/-- **What a forked run may come to**, given a run of the ids in one process: the same report up to
durations; the error of the same id without a dot; or kind and message of the error of a group that
fails alone, which is the error of the run in one process if groups are run in turn. -/
def RunAgrees (r : Registry σ) (host : Host) (ids : List TestId) (inTurn : Prop)
    (o : Except Error Report) : Prop :=
  match (r.runIds host ids).ending with
  | .finished report => ∃ forked, o = .ok forked ∧ forked.untimed = report.untimed
  | .failed e =>
    (∃ id ∈ ids, id.suitePath? = none ∧ e = .invalidTestId id.text ∧ o = .error e) ∨
      ((∀ id ∈ ids, id.suitePath?.isSome) ∧ ∃ groups g e', groupIds ids = .ok groups ∧
        g ∈ groups ∧ (r.runIds host g.2).ending = .failed e' ∧
        o = .error (.remote e'.kind e'.message) ∧ (inTurn → e' = e))
  | _ => False

theorem RunAgrees.mono {r : Registry σ} {host : Host} {ids : List TestId} {inTurn inTurn' : Prop}
    {o : Except Error Report} (h : RunAgrees r host ids inTurn o) (ht : inTurn' → inTurn) :
    RunAgrees r host ids inTurn' o := by
  unfold RunAgrees at h ⊢
  split
  · next report he => simpa only [he] using h
  · next e he =>
    simp only [he] at h
    rcases h with h | ⟨hdots, groups, g, e', hg, hmem, hf, ho, hfirst⟩
    · exact .inl h
    · exact .inr ⟨hdots, groups, g, e', hg, hmem, hf, ho, fun hturn => hfirst (ht hturn)⟩
  · next hfin hfail =>
    split at h
    · next report he => exact hfin _ he
    · next e he => exact hfail _ he
    · exact h

variable {host : Host} {ids : List TestId} {groups : Groups}

/-- If all groups come to reports, so does the run, and to the same. -/
theorem runAgrees_ok (htame : site.registry.IsTame) (hg : groupIds ids = .ok groups)
    {reports : List Report} {inTurn : Prop}
    (hr : List.Forall₂ (fun g s => Conveys (fun r s => s.untimed = r.untimed)
      (site.registry.runIds host g.2).ending (.ok s)) groups reports) :
    RunAgrees site.registry host ids inTurn (.ok (.mergeAll reports)) := by
  have horderly := Registry.isOrderly_runIds (htame.isTameIn host) ids
  unfold RunAgrees
  cases he : (site.registry.runIds host ids).ending with
  | finished report =>
    -- Both reports are merges, of what the groups come to here and of what was learned of them.
    obtain ⟨alone, ha, rfl⟩ := Registry.runIds_finished hg he
    refine ⟨_, rfl, ?_⟩
    rw [Report.untimed_mergeAll, Report.untimed_mergeAll]
    congr 1
    clear hg he horderly
    induction hr generalizing alone with
    | nil =>
      cases ha
      rfl
    | cons h _ ih =>
      obtain ⟨q, hq, hu⟩ := h.finished_of_ok
      cases ha with
      | cons hq' hrest =>
        rw [hq, Ending.finished.injEq] at hq'
        subst hq'
        rw [List.map_cons, List.map_cons, hu, ih _ hrest]
  | failed e =>
    -- Then a group would have failed alone.
    obtain ⟨before, g, after, rfl, -, hf⟩ := Registry.runIds_failed hg he
    obtain ⟨s, hs⟩ := exists_of_mem_forall₂ hr g (by simp)
    obtain ⟨q, hq, -⟩ := hs.finished_of_ok
    rw [hf] at hq
    cases hq
  | panicked m => rw [he] at horderly; cases horderly
  | exited c => rw [he] at horderly; cases horderly

/-- If a group fails alone, so does the run. -/
theorem runAgrees_error (htame : site.registry.IsTame) {before after : Groups}
    {g : String × List TestId} (hg : groupIds ids = .ok (before ++ g :: after)) {f : Error}
    (hf : (site.registry.runIds host g.2).ending = .failed f) {inTurn : Prop}
    (hb : inTurn → ∀ b ∈ before, ∃ q, (site.registry.runIds host b.2).ending = .finished q) :
    RunAgrees site.registry host ids inTurn (.error (.remote f.kind f.message)) := by
  have horderly := Registry.isOrderly_runIds (htame.isTameIn host) ids
  unfold RunAgrees
  cases he : (site.registry.runIds host ids).ending with
  | finished report =>
    -- Then the group would have finished alone.
    obtain ⟨alone, ha, -⟩ := Registry.runIds_finished hg he
    obtain ⟨q, hq⟩ := exists_of_mem_forall₂ ha g (by simp)
    rw [hf] at hq
    cases hq
  | failed e =>
    refine .inr ⟨suitePath?_isSome_of_groupIds hg, _, g, f, hg, by simp, hf, rfl, ?_⟩
    intro hturn
    have hfirst := Registry.runIds_of_first_failed hg (hb hturn) hf
    rw [he, Ending.failed.injEq] at hfirst
    exact hfirst.symm
  | panicked m => rw [he] at horderly; cases horderly
  | exited c => rw [he] at horderly; cases horderly

/-- **What a forked run comes to agrees with the run in one process.** -/
theorem runAgrees_of_forkedRun? [Wording] (hhost : site.registry.IgnoresHost)
    (htame : site.registry.IsTame) {submitted : List Task}
    (hquiet : ∀ t ∈ submitted, ∀ i, t.IsQuiet (site.forSlot i)) {p : Pool}
    (hsound : IsSound (ownProgram processors site) submitted p) {numbers : List Nat}
    (hcall : ∀ groups, groupIds ids = .ok groups → IsCall submitted (runTasks groups) numbers)
    (host : Host) {o : Except Error Report} (ho : forkedRun? ids numbers p = some o) :
    RunAgrees site.registry host ids (p.slots.length = 1) o := by
  unfold forkedRun? at ho
  cases hg : groupIds ids with
  | error e =>
    -- Ids are grouped before any task is submitted, and in either case by the same function.
    rw [hg] at ho
    cases ho
    obtain ⟨id, hid, hnone, rfl⟩ := groupIds_eq_error hg
    have he : (site.registry.runIds host ids).ending = .failed (.invalidTestId id.text) := by
      rw [Registry.runIds, hg]
      rfl
    rw [RunAgrees, he]
    exact .inl ⟨id, hid, hnone, rfl, rfl⟩
  | ok groups =>
    rw [hg] at ho
    have hc := hcall groups hg
    obtain ⟨o', ho', rfl⟩ := Option.map_eq_some_iff.1 ho
    -- What the tasks of the groups yield, the caller learns.
    have hlearn : ∀ g ∈ groups, ∀ x : Except Error Report,
        Yields (ownProgram processors site) Crew.readReport (.runTestIds g.2) x →
        Conveys (fun r s => s.untimed = r.untimed) (site.registry.runIds host g.2).ending x := by
      intro g hmem x hy
      have hgiven := hc.mem_submitted (List.mem_map.2 ⟨g, hmem, rfl⟩)
      exact conveys_run hhost htame host (hquiet _ hgiven) hy
    cases o' with
    | ok reports => exact runAgrees_ok htame hg (conveys_of_outcome? hsound hc hlearn ho')
    | error e =>
      obtain ⟨before, g, after, f, rfl, hf, rfl, hb⟩ := failed_of_outcome? hsound hc hlearn ho'
      exact runAgrees_error htame hg hf hb

/-- **Forked runs refine sequential ones.**  A pool that is not shut down was given quiet tasks, in
whatever order its slots took and finished jobs, and the tasks of a forked run are among them.
Then what the forked run has come to agrees with a run of the ids in any one process; while it has
come to nothing some slot can take or finish a job; and there are never more moves than three for
each task, so that it does come to something. -/
theorem forkedRun_refines [Wording] (processors : Nat) (hhost : site.registry.IgnoresHost)
    (htame : site.registry.IsTame) {size : Nat} {moves : List Move} (hlive : .cancel ∉ moves)
    (hquiet : ∀ t ∈ submittedTasks moves, ∀ i, t.IsQuiet (site.forSlot i)) {p : Pool}
    (hrun : (ofSize size).run (ownProgram processors site) moves = some p) {ids : List TestId}
    {numbers : List Nat} (hcall : ∀ groups, groupIds ids = .ok groups →
      IsCall (submittedTasks moves) (runTasks groups) numbers) (host : Host) :
    (∀ o, forkedRun? ids numbers p = some o →
      RunAgrees site.registry host ids (size ≤ 1) o) ∧
    (forkedRun? ids numbers p = none →
      ∃ i, (p.take (ownProgram processors site) i).isSome ∨
        (p.finish (ownProgram processors site) i).isSome) ∧
    moves.length ≤ 3 * (submittedTasks moves).length := by
  have htidy : ∀ t ∈ submittedTasks moves, ∀ i, IsTidy (ownProgram processors site) i t :=
    fun t ht i => isTidy_ownProgram processors (hquiet t ht i)
  have hsound := isSound_run hlive htidy hrun
  refine ⟨?_, ?_, length_moves_ofSize_le hlive hrun⟩
  · intro o ho
    apply (runAgrees_of_forkedRun? hhost htame hquiet hsound hcall host ho).mono
    intro hsize
    rw [length_slots_run hrun, length_slots_ofSize]
    omega
  · intro ho
    unfold forkedRun? at ho
    cases hg : groupIds ids with
    | error e =>
      rw [hg] at ho
      cases ho
    | ok groups =>
      rw [hg] at ho
      exact exists_move_of_outcome? hsound htidy (hcall groups hg) (Option.map_eq_none_iff.1 ho)

/-- Where a case fails. -/
def failingSite : Site Unit := soloSite (Text.utf8 "one") (.failed ["boom"])

open scoped Terse in
/-- A case that fails in a worker is a failure of the forked run, too. -/
theorem forkedRun_refines_failure :
    ∃ p forked, (ofSize 1).run (ownProgram 4 failingSite) [.submit soloTask, .take 0, .finish 0] =
        some p ∧
      forkedRun? [soloId] [0] p = some (.ok forked) ∧ forked.untimed = soloReport := by
  have hg : groupIds [soloId] = .ok [("m.Solo", [soloId])] := by decide +kernel
  have hrun : (failingSite.registry.runIds ⟨none⟩ [soloId]).ending = .finished soloReport := by
    decide +kernel
  have hreply : soloTask.reply? (failingSite.forSlot 0) = some (.done soloReport.stored) := by
    have hslot : ((failingSite.forSlot 0).registry.runIds (failingSite.forSlot 0).host
        [soloId]).ending = .finished soloReport := by
      decide +kernel
    rw [soloTask, Task.reply?_runTestIds, hslot]
  have havoids : failingSite.registry.AvoidsSeparator :=
    avoidsSeparator_soloSite (by decide +kernel)
  have hq := Task.isQuiet_forSlot havoids
  obtain ⟨p, hp, hp0⟩ := exists_answer?_alone 4 (hq soloTask 0) (Task.isWritable_runTestIds _)
  have hforked : forkedRun? [soloId] [0] p = some (.ok (.mergeAll [soloReport.received])) := by
    have hval : Crew.value? Crew.readReport p 0 = some (.ok soloReport.received) := by
      rw [Crew.value?, hp0, Option.map_some, hreply]
      simp only [Reply.result, Crew.readAnswer, Crew.readReport_stored]
    simp only [forkedRun?, hg, Crew.outcome?, List.map_cons, List.map_nil, hval]
    rfl
  have hcall : ∀ groups, groupIds [soloId] = .ok groups →
      IsCall [soloTask] (runTasks groups) [0] := by
    intro groups hgroups
    rw [hg, Except.ok.injEq] at hgroups
    subst hgroups
    exact ⟨List.pairwise_singleton .., .cons rfl .nil⟩
  have hagrees : RunAgrees failingSite.registry ⟨none⟩ [soloId] (1 ≤ 1)
      (.ok (.mergeAll [soloReport.received])) :=
    (forkedRun_refines 4 ignoresHost_soloSite (isTame_soloSite rfl) (by decide)
      (fun t _ => hq t) hp hcall ⟨none⟩).1 _ hforked
  rw [RunAgrees, hrun] at hagrees
  obtain ⟨forked, hf, hu⟩ := hagrees
  exact ⟨p, forked, hp, by rw [hforked, hf], hu⟩

end SuitePool
