import Mathlib.Data.List.Basic
import Mathlib.Data.List.Forall2
import Mathlib.Tactic.Common
import SuitePool.Proofs.Pool.Calls
import SuitePool.Proofs.Pool.Isolation
import SuitePool.Proofs.Run

/-!
# What a caller learns of its tasks

A task ends in a worker with a value or with an error, and the caller learns of it through the
worker's reply.  Ids arrive as they are, and reports with their durations cut to milliseconds; of an
error only its kind and its message arrive.

## Main definitions

* `Conveys`: what a caller learns of how a task ended.

## Main results

* `conveys_run`, `conveys_discovery`: what a caller learns of the tasks that workers do.
* `conveys_of_outcome?`, `failed_of_outcome?`: what a caller learns of a call.
-/

namespace SuitePool

open Pool

variable {σ α β : Type}

/-- **What a caller learns of how a task ended in a worker**: a related value, or of an error its
kind and its message. -/
inductive Conveys (R : α → β → Prop) : Ending Error α → Except Error β → Prop where
  /-- The task was done. -/
  | value {a : α} {b : β} (h : R a b) : Conveys R (.finished a) (.ok b)
  /-- The task failed. -/
  | error (e : Error) : Conveys R (.failed e) (.error (.remote e.kind e.message))

theorem Conveys.finished_of_ok {R : α → β → Prop} {e : Ending Error α} {b : β}
    (h : Conveys R e (.ok b)) : ∃ a, e = .finished a ∧ R a b := by
  cases h with
  | value h => exact ⟨_, rfl, h⟩

theorem Conveys.failed_of_error {R : α → β → Prop} {e : Ending Error α} {e' : Error}
    (h : Conveys R e (.error e')) : ∃ f, e = .failed f ∧ e' = .remote f.kind f.message := by
  cases h with
  | error f => exact ⟨f, rfl, rfl⟩

/-! ## The tasks of a call -/

section Call

variable {ι : Type} {program : WorkerProgram} {submitted : List Task} {p : Pool}
  {read : Json → Except String β} {R : α → β → Prop} {items : List ι} {task : ι → Task}
  {came : ι → Ending Error α} {numbers : List Nat}

/-- **A call that comes to values** conveys one of each of its items, if their tasks do. -/
theorem conveys_of_outcome? (hsound : IsSound program submitted p)
    (hcall : IsCall submitted (items.map task) numbers)
    (hlearn : ∀ a ∈ items, ∀ x, Yields program read (task a) x → Conveys R (came a) x)
    {values : List β} (ho : Crew.outcome? read p numbers = some (.ok values)) :
    List.Forall₂ (fun a v => Conveys R (came a) (.ok v)) items values := by
  have hyields := values_of_outcome? hsound hcall.tasks ho
  rw [List.forall₂_map_left_iff] at hyields
  have hboth := (List.forall₂_and_left _ _).2 ⟨fun a (ha : a ∈ items) => ha, hyields⟩
  refine hboth.imp ?_
  rintro a v ⟨ha, hy⟩
  exact hlearn a ha _ hy

/-- **A call that comes to an error** conveys that of one of its items; with a single slot those
before it finish. -/
theorem failed_of_outcome? (hsound : IsSound program submitted p)
    (hcall : IsCall submitted (items.map task) numbers)
    (hlearn : ∀ a ∈ items, ∀ x, Yields program read (task a) x → Conveys R (came a) x)
    {e : Error} (ho : Crew.outcome? read p numbers = some (.error e)) :
    ∃ before a after f, items = before ++ a :: after ∧ came a = .failed f ∧
      e = .remote f.kind f.message ∧
      (p.slots.length = 1 → ∀ b ∈ before, ∃ q, came b = .finished q) := by
  obtain ⟨front, t, back, htasks, hy, hfront⟩ := error_of_outcome? hsound hcall ho
  obtain ⟨before, rest, rfl, rfl, hrest⟩ := List.map_eq_append_iff.1 htasks
  obtain ⟨a, after, rfl, rfl, -⟩ := List.map_eq_cons_iff.1 hrest
  obtain ⟨f, hf, he⟩ := (hlearn a (by simp) _ hy).failed_of_error
  refine ⟨before, a, after, f, rfl, hf, he, ?_⟩
  intro hturn b hb
  obtain ⟨v, hv⟩ := hfront hturn _ (List.mem_map.2 ⟨b, hb, rfl⟩)
  obtain ⟨q, hq, -⟩ := (hlearn b (List.mem_append_left _ hb) _ hv).finished_of_ok
  exact ⟨q, hq⟩

end Call

/-! ## The tasks of workers -/

variable {site : Site σ} {processors : Nat}

/-- **What a caller learns of a run of ids** that ends orderly. -/
theorem conveys_run [Wording] (hhost : site.registry.IgnoresHost) (htame : site.registry.IsTame)
    (host : Host) {ids : List TestId} (hq : ∀ i, (Task.runTestIds ids).IsQuiet (site.forSlot i))
    {x : Except Error Report}
    (hy : Yields (ownProgram processors site) Crew.readReport (.runTestIds ids) x) :
    Conveys (fun r s => s.untimed = r.untimed) (site.registry.runIds host ids).ending x := by
  obtain ⟨i, a, ha, rfl⟩ := hy
  rw [answerAt_ownProgram processors (hq i) (Task.isWritable_runTestIds ids),
    Task.reply?_runTestIds, Option.some.injEq] at ha
  have halike : (site.registry.runIds host ids).ending.Alike (fun r s => r.untimed = s.untimed)
      ((site.forSlot i).registry.runIds (site.forSlot i).host ids).ending :=
    Registry.runIds_alike hhost host _ ids
  have horderly := Registry.isOrderly_runIds (htame.isTameIn host) ids
  -- The worker ends the run as any process does, and that is with a report or with an error.
  subst ha
  revert halike horderly
  generalize (site.registry.runIds host ids).ending = e
  generalize ((site.forSlot i).registry.runIds (site.forSlot i).host ids).ending = e'
  rintro (h | e | m | c) horderly
  · next r s =>
    simp only [Reply.result, Crew.readAnswer, Crew.readReport_stored]
    exact .value (by rw [Report.untimed_received, h])
  · exact .error e
  · cases horderly
  · cases horderly

/-- **What a caller learns of the discovery of a file** that ends orderly. -/
theorem conveys_discovery [Wording] (hres : site.registry.ResolvesAlike)
    (htame : site.registry.HasTameGetters) (host : Host) {file : Path} {modulePath : List Path}
    (hw : (Task.discoverFile file modulePath).IsWritable)
    (hq : ∀ i, (Task.discoverFile file modulePath).IsQuiet (site.forSlot i))
    {x : Except Error (List TestId)}
    (hy : Yields (ownProgram processors site) Crew.readIds
      (.discoverFile file modulePath) x) :
    Conveys Eq (site.registry.discoverFile site.tree host modulePath file).ending x := by
  obtain ⟨i, a, ha, rfl⟩ := hy
  rw [answerAt_ownProgram processors (hq i) hw, Task.reply?_discoverFile, Option.some.injEq] at ha
  have halike : ((site.forSlot i).registry.discoverFile (site.forSlot i).tree
      (site.forSlot i).host modulePath file).ending =
        (site.registry.discoverFile site.tree host modulePath file).ending :=
    Registry.ending_discoverFile_congr hres ..
  have horderly := Registry.isOrderly_discoverFile (htame.hasTameGettersIn host) site.tree
    modulePath file
  -- The worker finds the same ids, or the same error.
  rw [halike] at ha
  subst ha
  cases he : (site.registry.discoverFile site.tree host modulePath file).ending with
  | finished ids =>
    simp only [Reply.result, Crew.readAnswer, Crew.readIds_toJson]
    exact .value rfl
  | failed e => exact .error e
  | panicked m => rw [he] at horderly; cases horderly
  | exited c => rw [he] at horderly; cases horderly

end SuitePool
