import Mathlib.Data.List.Basic
import Mathlib.Tactic.Common
import SuitePool.Proofs.Hosts
import SuitePool.Proofs.Pool.Soundness
import SuitePool.Proofs.Quiet

/-!
# Crash isolation

The workers of a pool serve one site.  A task during which no marker is printed leaves its worker
as good as new, or ends it, and the pool then throws the process away; so whatever else a pool is
given, and in whatever order its slots take and finish jobs, a job is answered with what its task
comes to in a worker of its own.  Where hooks do not depend on the process they run in, this is the
same for all slots, except for the times that cases took and for the number of a slot whose process
ended.

## Main definitions

* `Json.untimed`, `Answer.outline`: what is the same for all slots.

## Main results

* `answerAt_ownProgram`: what a quiet task comes to at a slot whose process is new.
* `outline_answerAt`: it is the same for all slots.
* `answer?_alone`: a pool of one slot that is given one task.
* `isolation`: answers do not depend on anything but their tasks.
-/

namespace SuitePool

/-! ## What all slots have in common -/

/-- A value without the member that tells a duration. -/
def Json.untimed : Json → Json
  | .object members => .object (members.filter fun m => m.1 != "duration")
  | j => j

/-- **An answer without what depends on its slot**: the times that cases took, and the number of
a slot whose process ended. -/
def Answer.outline : Answer → Answer
  | .ok j => .ok j.untimed
  | .error (.worker (.exited _)) => Pool.failure (.exited 0)
  | .error e => .error e

/-- A stored report without its duration. -/
theorem Report.untimed_stored_congr {r s : Report} (h : r.untimed = s.untimed) :
    r.stored.untimed = s.stored.untimed := by
  simp only [untimed, mk.injEq, and_true] at h
  obtain ⟨ht, hf, he⟩ := h
  simp [stored, Json.untimed, ht, hf, he]

/-- A reply without the times that cases took. -/
def Reply.untimed : Reply → Reply
  | .done value => .done value.untimed
  | r => r

theorem Reply.outline_result_congr {r s : Reply} (h : r.untimed = s.untimed) :
    Answer.outline r.result = Answer.outline s.result := by
  cases r <;> cases s <;> simp_all [untimed, result, Answer.outline]

variable {σ : Type} {site : Site σ}

/-- **A task comes to the same at all slots**, durations aside. -/
theorem Task.untimed_reply?_congr (hsite : site.registry.IgnoresHost) (t : Task) (i j : Nat) :
    (t.reply? (site.forSlot i)).map Reply.untimed =
      (t.reply? (site.forSlot j)).map Reply.untimed := by
  cases t with
  | discoverFile file modulePath =>
    have he : ((site.forSlot i).registry.discoverFile (site.forSlot i).tree (site.forSlot i).host
        modulePath file).ending = ((site.forSlot j).registry.discoverFile (site.forSlot j).tree
        (site.forSlot j).host modulePath file).ending :=
      Registry.ending_discoverFile_congr hsite.resolvesAlike ..
    rw [reply?_discoverFile, reply?_discoverFile, he]
  | runTestIds ids =>
    have ha : ((site.forSlot i).registry.runIds (site.forSlot i).host ids).ending.Alike
        (fun r s => r.untimed = s.untimed)
        ((site.forSlot j).registry.runIds (site.forSlot j).host ids).ending :=
      Registry.runIds_alike hsite ..
    rw [reply?_runTestIds, reply?_runTestIds]
    revert ha
    generalize ((site.forSlot i).registry.runIds (site.forSlot i).host ids).ending = e
    generalize ((site.forSlot j).registry.runIds (site.forSlot j).host ids).ending = e'
    rintro (h | _ | _ | _)
    · simp [Reply.untimed, Report.untimed_stored_congr h]
    all_goals rfl

namespace Pool

/-! ## Tasks at one slot -/

section Slot

variable (processors : Nat) {i : Nat} {t : Task}

/-- **What a slot makes of a quiet task** that a new process was sent. -/
theorem settle_ownProgram [Wording] (hq : t.IsQuiet (site.forSlot i)) (hw : t.IsWritable) :
    ∃ sent, dispatch (ownProgram processors site) i none t = .ok sent ∧
      settle (ownProgram processors site) i sent = some (match t.reply? (site.forSlot i) with
        | some r => (r.result, some .fresh)
        | none => (failure (.exited i), none)) := by
  obtain ⟨line, hl⟩ : ∃ line, t.line? = some line := ⟨_, Task.line?_of_isWritable hw⟩
  refine ⟨Process.fresh.send (workerResponse processors site i) line, ?_, ?_⟩
  · simp only [dispatch, processFor, ownProgram, hl]
    rfl
  · have hr := reading_send_of_isQuiet processors site i hw hl hq
    rw [settle, hr, Task.readEnd]
    have hs := workerResponse_survives processors site i hw hl
    cases ho : t.reply? (site.forSlot i) with
    | none => rfl
    | some r =>
      rw [ho] at hs
      simp only [Process.send, Process.fresh, if_true, hs, Option.isSome_some]

theorem dispatch_unwritable (program : WorkerProgram) (hr : program.refusal = none)
    (hw : ¬ t.IsWritable) : dispatch program i none t = .error .unwritableTask := by
  simp only [dispatch, processFor, hr, Task.line?_of_not_isWritable hw]
  rfl

/-- **Quiet tasks are tidy.** -/
theorem isTidy_ownProgram [Wording] (hq : t.IsQuiet (site.forSlot i)) :
    IsTidy (ownProgram processors site) i t := by
  intro sent hd
  -- A task that cannot be written is not sent to any process.
  by_cases hw : t.IsWritable
  · obtain ⟨sent', hd', hs⟩ := settle_ownProgram processors hq hw
    rw [hd, Except.ok.injEq] at hd'
    subst hd'
    cases hr : t.reply? (site.forSlot i) with
    | none =>
      rw [hr] at hs
      exact ⟨_, _, hs, .inl rfl⟩
    | some r =>
      rw [hr] at hs
      exact ⟨_, _, hs, .inr rfl⟩
  · rw [dispatch_unwritable _ rfl hw] at hd
    cases hd

/-- **What a quiet task comes to at a slot whose process is new.** -/
theorem answerAt_ownProgram [Wording] (hq : t.IsQuiet (site.forSlot i)) (hw : t.IsWritable) :
    answerAt (ownProgram processors site) i t =
      some (match t.reply? (site.forSlot i) with
        | some r => r.result
        | none => failure (.exited i)) := by
  obtain ⟨sent, hd, hs⟩ := settle_ownProgram processors hq hw
  simp only [answerAt, hd, hs, Option.map_some]
  cases t.reply? (site.forSlot i) <;> rfl

theorem answerAt_unwritable [Wording] (hw : ¬ t.IsWritable) :
    answerAt (ownProgram processors site) i t = some (failure .unwritableTask) := by
  rw [answerAt, dispatch_unwritable _ rfl hw]

end Slot

/-- **A quiet task comes to the same at all slots**, in outline. -/
theorem outline_answerAt [Wording] (processors : Nat) (hsite : site.registry.IgnoresHost) {t : Task}
    (hq : ∀ i, t.IsQuiet (site.forSlot i)) (i j : Nat) :
    (answerAt (ownProgram processors site) i t).map Answer.outline =
      (answerAt (ownProgram processors site) j t).map Answer.outline := by
  by_cases hw : t.IsWritable
  · have hr := Task.untimed_reply?_congr hsite t i j
    rw [answerAt_ownProgram processors (hq i) hw, answerAt_ownProgram processors (hq j) hw]
    -- The task ends its process at both slots or at neither.
    cases hi : t.reply? (site.forSlot i) with
    | none =>
      cases hj : t.reply? (site.forSlot j) with
      | none => rfl
      | some s => rw [hi, hj] at hr; cases hr
    | some r =>
      cases hj : t.reply? (site.forSlot j) with
      | none => rw [hi, hj] at hr; cases hr
      | some s =>
        rw [hi, hj, Option.map_some, Option.map_some, Option.some.injEq] at hr
        exact congrArg some (Reply.outline_result_congr hr)
  · rw [answerAt_unwritable processors hw, answerAt_unwritable processors hw]

/-- **A pool of one slot that is given one task** answers it with what the task comes to. -/
theorem answer?_alone {program : WorkerProgram} {t : Task} {sent : Process}
    (hd : dispatch program 0 none t = .ok sent) {a : Answer}
    (ha : answerAt program 0 t = some a) :
    ∃ p, (ofSize 1).run program [.submit t, .take 0, .finish 0] = some p ∧
      p.answer? 0 = some a := by
  simp only [answerAt, hd] at ha
  obtain ⟨⟨a', kept⟩, hs, rfl⟩ := Option.map_eq_some_iff.1 ha
  let given := (ofSize 1).submit t
  have hwaiting : given.slots[0]? = some (.waiting none) := rfl
  have hgiven : given.queue = [⟨0, t⟩] := rfl
  -- The slot takes the job.
  obtain ⟨taken, htake⟩ := Option.isSome_iff_exists.1
    (exists_take program (show given.cancelled = false from rfl) hwaiting (hgiven ▸ by simp))
  obtain ⟨-, process, job, rest, hw, hq, hafter⟩ := take_eq_some htake
  rw [hwaiting, Option.some.injEq, Slot.waiting.injEq] at hw
  rw [hgiven, List.cons.injEq] at hq
  obtain ⟨rfl, rfl⟩ := hq
  subst hw
  have hbusy : taken.slots[0]? = some (.busy ⟨0, t⟩ sent) ∧ taken.cancelled = false ∧
      taken.answers = [] := by
    rcases hafter with ⟨sent', hd', rfl⟩ | ⟨e, hd', -⟩
    · rw [hd, Except.ok.injEq] at hd'
      subst hd'
      exact ⟨rfl, rfl, rfl⟩
    · rw [hd] at hd'
      cases hd'
  -- The slot finishes it.
  obtain ⟨p, hfin⟩ := Option.isSome_iff_exists.1
    (exists_finish hbusy.2.1 hbusy.1 (by rw [hs]; rfl))
  refine ⟨p, run_cons_of_step rfl (run_cons_of_step htake (run_cons_of_step hfin rfl)), ?_⟩
  obtain ⟨-, job, process, b, kept', notices, hw, hset, rfl⟩ := finish_eq_some hfin
  rw [hbusy.1, Option.some.injEq, Slot.busy.injEq] at hw
  obtain ⟨rfl, rfl⟩ := hw
  rw [hs, Option.some.injEq, Prod.mk.injEq] at hset
  rw [answer?, hbusy.2.2, hset.1]
  rfl

/-- The same for a quiet task. -/
theorem exists_answer?_alone [Wording] (processors : Nat) {t : Task}
    (hq : t.IsQuiet (site.forSlot 0)) (hw : t.IsWritable) :
    ∃ p, (ofSize 1).run (ownProgram processors site) [.submit t, .take 0, .finish 0] = some p ∧
      p.answer? 0 = some (match t.reply? (site.forSlot 0) with
        | some r => r.result
        | none => failure (.exited 0)) := by
  obtain ⟨sent, hd, -⟩ := settle_ownProgram processors hq hw
  exact answer?_alone hd (answerAt_ownProgram processors hq hw)

/-! ## Crash isolation -/

/-- **Answers do not depend on anything but their tasks.**  A pool that is not shut down was given
quiet tasks, in whatever order its slots took and finished jobs, and some of the tasks ended their
worker.  Then the answer of each job that has one is in outline what its task comes to in a worker
of its own; it says that the worker ended exactly if the task ends its worker.  Every job is handed
to at most one slot, and answered once.  A slot in the middle of a job has a process that was as
good as new when it was sent the job, and so is each that a waiting slot keeps. -/
theorem isolation [Wording] (processors : Nat) (hsite : site.registry.IgnoresHost) {size : Nat}
    {moves : List Move} (hlive : .cancel ∉ moves)
    (hquiet : ∀ t ∈ submittedTasks moves, ∀ i, t.IsQuiet (site.forSlot i)) {p : Pool}
    (hrun : (ofSize size).run (ownProgram processors site) moves = some p) :
    (∀ k a, p.answer? k = some a → ∃ t, (submittedTasks moves)[k]? = some t ∧
      ∀ j, (answerAt (ownProgram processors site) j t).map Answer.outline =
          some (Answer.outline a) ∧
        (t.IsWritable → ((∃ i, a = failure (.exited i)) ↔ t.reply? (site.forSlot j) = none))) ∧
    (handouts (ownProgram processors site) (ofSize size) moves).map (·.1) = List.range p.handed ∧
    (p.answers.map (·.1)).Nodup ∧
    (∀ (i : Nat) (job : Job) (process : Process), p.slots[i]? = some (.busy job process) →
      (submittedTasks moves)[job.number]? = some job.task ∧
        dispatch (ownProgram processors site) i none job.task = .ok process) ∧
    ∀ (i : Nat) (process : Process),
      p.slots[i]? = some (.waiting (some process)) → process = .fresh := by
  have htidy : ∀ t ∈ submittedTasks moves, ∀ i, IsTidy (ownProgram processors site) i t :=
    fun t ht i => isTidy_ownProgram processors (hquiet t ht i)
  have hsound := isSound_run hlive htidy hrun
  refine ⟨?_, handouts_eq_range hlive htidy hrun, hsound.nodup_answers,
    fun i job process hs => hsound.slots i _ hs, fun i process hs => hsound.process_eq_fresh hs⟩
  intro k a ha
  -- The answer is what the task comes to at the slot that did it.
  obtain ⟨t, i, ht, -, hat⟩ := hsound.answerAt_of_answer? ha
  have hq := hquiet t (List.mem_of_getElem? ht)
  refine ⟨t, ht, ?_⟩
  intro j
  constructor
  · rw [outline_answerAt processors hsite hq j i, hat, Option.map_some]
  · intro hw
    rw [answerAt_ownProgram processors (hq i) hw, Option.some.injEq] at hat
    have hr := Task.untimed_reply?_congr hsite t i j
    subst hat
    cases hi : t.reply? (site.forSlot i) with
    | none =>
      rw [hi, Option.map_none, eq_comm, Option.map_eq_none_iff] at hr
      exact ⟨fun _ => hr, fun _ => ⟨i, rfl⟩⟩
    | some r =>
      constructor
      · -- What a reply says is never that the worker ended.
        rintro ⟨i', he⟩
        cases r <;> cases he
      · intro hj
        rw [hi, hj] at hr
        cases hr

end Pool

/-! ## A suite with one body -/

/-- A suite with one member, whose body prints bytes and ends in a given way. -/
def soloSuite (printed : Text.Bytes) (ending : Ending Failure Unit) : Suite Unit where
  name := "Solo"
  isAbstract := false
  construct := fun _ => .ofEnding (.finished ())
  setUp := fun _ x => (x, .ofEnding (.finished ()))
  tearDown := fun _ x => (x, .ofEnding (.finished ()))
  members := [("test_one", .method fun _ x => (x, { Act.ofEnding ending with printed := printed }))]

/-- Where this suite is the only one. -/
def soloSite (printed : Text.Bytes) (ending : Ending Failure Unit) : Site Unit where
  registry := ⟨.ofString "/pkg", [⟨"m", [.suite (soloSuite printed ending)]⟩]⟩
  tree := ⟨[], []⟩
  host := ⟨none⟩

/-- The id of its case. -/
def soloId : TestId := .ofParts "m" "Solo" "test_one"

/-- The run of its case. -/
def soloTask : Task := .runTestIds [soloId]

/-- The report of its case, if it fails. -/
def soloReport : Report := ⟨1, [⟨soloId, .failed, "boom"⟩], [], 0⟩

section Solo

variable {printed : Text.Bytes} {ending : Ending Failure Unit}

theorem hasSuite_soloSite {s : Suite Unit} (h : (soloSite printed ending).registry.HasSuite s) :
    s = soloSuite printed ending := by
  obtain ⟨m, hm, hs⟩ := h
  rw [List.mem_singleton.1 hm, List.mem_singleton, Item.suite.injEq] at hs
  exact hs

theorem ignoresHost_soloSite : (soloSite printed ending).registry.IgnoresHost := by
  intro s hs h h'
  rw [hasSuite_soloSite hs]
  refine ⟨⟨.finished rfl, rfl, rfl⟩, fun x => ⟨rfl, .finished rfl, rfl, rfl⟩,
    fun x => ⟨rfl, .finished rfl, rfl, rfl⟩, fun x => ⟨.finished rfl, rfl, rfl⟩, ?_⟩
  intro m hm
  rw [List.mem_singleton.1 hm]
  exact fun x => ⟨rfl, Ending.alike_eq_iff.2 rfl, rfl, rfl⟩

theorem isTame_soloSite (he : ending.isExit = false) :
    (soloSite printed ending).registry.IsTame := by
  intro s hs h
  rw [hasSuite_soloSite hs]
  refine ⟨⟨rfl, rfl, rfl⟩, fun x => ⟨rfl, rfl, rfl⟩, fun x => ⟨rfl, rfl, rfl⟩, fun x => rfl, ?_⟩
  intro m hm
  rw [List.mem_singleton.1 hm]
  exact fun x => ⟨he, rfl, rfl⟩

theorem avoidsSeparator_soloSite (hp : separator ∉ printed) :
    (soloSite printed ending).registry.AvoidsSeparator := by
  intro s hs h
  have hnil := List.not_mem_nil (a := separator)
  rw [hasSuite_soloSite hs]
  refine ⟨⟨hnil, hnil, hnil⟩, fun x => ⟨hnil, hnil, hnil⟩, fun x => ⟨hnil, hnil, hnil⟩,
    fun x => ⟨hnil, hnil, hnil⟩, ?_⟩
  intro m hm
  rw [List.mem_singleton.1 hm]
  exact fun x => ⟨hp, hnil, hnil⟩

end Solo

/-- Where a body ends its process. -/
def exitingSite : Site Unit := soloSite (Text.utf8 "one") (.exited 3)

open scoped Terse in
/-- A body that ends its process ends its worker: the job is answered with the end of the worker of
slot 0, as it is in a worker of its own at slot 5. -/
theorem isolation_of_exit :
    ∃ p, (Pool.ofSize 1).run (ownProgram 4 exitingSite) [.submit soloTask, .take 0, .finish 0] =
        some p ∧
      p.answer? 0 = some (Pool.failure (.exited 0)) ∧
      (Pool.answerAt (ownProgram 4 exitingSite) 5 soloTask).map Answer.outline =
        some (Pool.failure (.exited 0)) := by
  have hsite : exitingSite.registry.IgnoresHost := ignoresHost_soloSite
  have havoids : exitingSite.registry.AvoidsSeparator :=
    avoidsSeparator_soloSite (by decide +kernel)
  have hq := Task.isQuiet_forSlot havoids
  have hnone : soloTask.reply? (exitingSite.forSlot 0) = none :=
    Option.isNone_iff_eq_none.1 (by decide +kernel)
  obtain ⟨p, hp, hp0⟩ := Pool.exists_answer?_alone 4 (hq soloTask 0) (Task.isWritable_runTestIds _)
  rw [hnone] at hp0
  obtain ⟨t, ht, h⟩ := (Pool.isolation 4 hsite (by decide) (fun t _ => hq t) hp).1 0 _ hp0
  obtain rfl : soloTask = t := Option.some.inj ht
  exact ⟨p, hp, hp0, (h 5).1⟩

end SuitePool
