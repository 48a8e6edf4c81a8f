import Mathlib.Data.List.Basic
import Mathlib.Tactic.Common
import SuitePool.Pool
import SuitePool.Proofs.Worker

/-!
# The moves of a pool

While a pool is not shut down it has three kinds of moves: a task is submitted, a slot takes the
first job of the queue, and a slot finishes its job.  Once it is shut down, slots give up their jobs
and stop.  This module takes the moves apart, so that nothing that is proved of a pool has to look
into them again, and says which moves are possible.

## Main definitions

* `Pool.settle`: what a slot makes of what it reads.
* `Pool.Steps`: everything that a move may do to a pool.
* `Pool.submittedTasks`: the tasks that moves submit.
* `Pool.busyNumbers`: the jobs that slots are in the middle of.

## Main results

* `Pool.take_eq_some`, `Pool.finish_eq_some`: what taking and finishing do.
* `Pool.steps_of_step`: what any move does.
* `Pool.exists_take`, `Pool.exists_finish`: when they are possible.
* `Pool.answer?_run`: answers stay given.
* `Pool.length_moves_le`: there are at most three moves for each submitted task.
-/

namespace SuitePool.Pool

/-! ## Lists that change -/

/-- A list that changed in one place. -/
theorem getElem?_set_cases {α : Type} {as : List α} {i j : Nat} {b c : α}
    (h : (as.set i b)[j]? = some c) : (j = i ∧ c = b) ∨ as[j]? = some c := by
  by_cases hij : i = j
  · subst hij
    rw [List.getElem?_set_self'] at h
    obtain ⟨-, -, rfl⟩ := Option.map_eq_some_iff.1 h
    exact .inl ⟨rfl, rfl⟩
  · rw [List.getElem?_set_ne hij] at h
    exact .inr h

/-- A list that got longer. -/
theorem getElem?_append_of_some {α : Type} {as : List α} {k : Nat} {a : α} (h : as[k]? = some a)
    (more : List α) : (as ++ more)[k]? = some a := by
  rw [List.getElem?_append_left (List.getElem?_eq_some_iff.1 h).1]
  exact h

/-! ## Taking moves apart -/

/-- **What a slot makes of what it reads**: the answer that it gives, and the process that it keeps;
nothing while there is no more to read. -/
def settle (program : WorkerProgram) (i : Nat) (process : Process) :
    Option (Answer × Option Process) :=
  match process.reading with
  | .waiting => none
  | .closed => some (failure (.exited i), none)
  | .malformed line => some (failure (.malformedReply i (program.noReply line)), none)
  | .reply r unread => some (r.result, some ⟨unread, process.alive, none⟩)

/-- **What taking a job does.** -/
theorem take_eq_some {program : WorkerProgram} {p q : Pool} {i : Nat}
    (h : p.take program i = some q) :
    p.cancelled = false ∧ ∃ process job rest, p.slots[i]? = some (.waiting process) ∧
      p.queue = job :: rest ∧
      ((∃ sent, dispatch program i process job.task = .ok sent ∧
          q = { p with queue := rest, slots := p.slots.set i (.busy job sent) }) ∨
        ∃ e, dispatch program i process job.task = .error e ∧
          q = { p with
            queue := rest
            slots := p.slots.set i (.waiting none)
            answers := p.answers ++ [(job.number, failure e)] }) := by
  unfold take at h
  cases hc : p.cancelled with
  | true => rw [hc, if_pos rfl] at h; cases h
  | false =>
    rw [hc, if_neg Bool.false_ne_true] at h
    split at h
    · next process job rest hs hq =>
      refine ⟨rfl, process, job, rest, hs, hq, ?_⟩
      cases hd : dispatch program i process job.task with
      | ok sent =>
        rw [hd] at h
        cases h
        exact .inl ⟨sent, rfl, rfl⟩
      | error e =>
        rw [hd] at h
        cases h
        exact .inr ⟨e, rfl, rfl⟩
    · cases h

/-- **What finishing a job does.** -/
theorem finish_eq_some {program : WorkerProgram} {p q : Pool} {i : Nat}
    (h : p.finish program i = some q) :
    p.cancelled = false ∧ ∃ job process a kept notices, p.slots[i]? = some (.busy job process) ∧
      settle program i process = some (a, kept) ∧
      q = { p with
        slots := p.slots.set i (.waiting kept)
        answers := p.answers ++ [(job.number, a)]
        notices := notices } := by
  unfold finish at h
  cases hc : p.cancelled with
  | true => rw [hc, if_pos rfl] at h; cases h
  | false =>
    rw [hc, if_neg Bool.false_ne_true] at h
    split at h
    · next job process hs =>
      -- One case for each way in which reading may come to an end.
      cases hr : (readReply process.alive process.unread).2 with
      | waiting => simp only [hr] at h; cases h
      | closed =>
        simp only [hr] at h
        cases h
        exact ⟨rfl, job, process, _, _, _, hs, by simp only [settle, Process.reading, hr], rfl⟩
      | malformed line =>
        simp only [hr] at h
        cases h
        exact ⟨rfl, job, process, _, _, _, hs, by simp only [settle, Process.reading, hr], rfl⟩
      | reply r unread =>
        simp only [hr] at h
        cases h
        exact ⟨rfl, job, process, _, _, _, hs, by simp only [settle, Process.reading, hr], rfl⟩
    · cases h

/-- **Everything that a move may do to a pool.** -/
inductive Steps (program : WorkerProgram) (p : Pool) : Move → Pool → Prop where
  /-- A task is queued. -/
  | queued {t : Task} (hs : p.isStopped = false) : Steps program p (.submit t) { p with
      submitted := p.submitted + 1
      queue := p.queue ++ [⟨p.submitted, t⟩] }
  /-- A task is refused, as nobody is left to take it. -/
  | refused {t : Task} (hs : p.isStopped = true) : Steps program p (.submit t) { p with
      submitted := p.submitted + 1
      answers := p.answers ++ [(p.submitted, failure .refused)] }
  /-- The pool is shut down. -/
  | cancelled : Steps program p .cancel { p with cancelled := true }
  /-- A slot takes the first job, and its process is sent the task. -/
  | taken {i : Nat} {kept : Option Process} {job : Job} {rest : List Job} {process : Process}
      (hc : p.cancelled = false) (hs : p.slots[i]? = some (.waiting kept))
      (hq : p.queue = job :: rest) (hd : dispatch program i kept job.task = .ok process) :
      Steps program p (.take i) { p with
        queue := rest
        slots := p.slots.set i (.busy job process) }
  /-- A slot takes the first job, but the task cannot be sent. -/
  | unsent {i : Nat} {kept : Option Process} {job : Job} {rest : List Job} {e : WorkerError}
      (hc : p.cancelled = false) (hs : p.slots[i]? = some (.waiting kept))
      (hq : p.queue = job :: rest) (hd : dispatch program i kept job.task = .error e) :
      Steps program p (.take i) { p with
        queue := rest
        slots := p.slots.set i (.waiting none)
        answers := p.answers ++ [(job.number, failure e)] }
  /-- A slot reads what its process answered, or finds that it will not answer. -/
  | finished {i : Nat} {job : Job} {process : Process} {a : Answer} {kept : Option Process}
      {notices : List Notice} (hc : p.cancelled = false)
      (hs : p.slots[i]? = some (.busy job process))
      (hr : settle program i process = some (a, kept)) :
      Steps program p (.finish i) { p with
        slots := p.slots.set i (.waiting kept)
        answers := p.answers ++ [(job.number, a)]
        notices := notices }
  /-- A slot gives up its job, and its process with it. -/
  | abandoned {i : Nat} {job : Job} {process : Process} (hc : p.cancelled = true)
      (hs : p.slots[i]? = some (.busy job process)) :
      Steps program p (.abandon i) { p with
        slots := p.slots.set i (.waiting none)
        answers := p.answers ++ [(job.number, failure .interrupted)] }
  /-- A slot stops, and others have not stopped yet. -/
  | stopped {i : Nat} {kept : Option Process} (hc : p.cancelled = true)
      (hs : p.slots[i]? = some (.waiting kept))
      (hn : (p.setSlot i .stopped).isStopped = false) :
      Steps program p (.stop i) { p with slots := p.slots.set i .stopped }
  /-- The last slot stops, and the queue is dropped. -/
  | dropped {i : Nat} {kept : Option Process} (hc : p.cancelled = true)
      (hs : p.slots[i]? = some (.waiting kept))
      (hn : (p.setSlot i .stopped).isStopped = true) :
      Steps program p (.stop i) { p with
        slots := p.slots.set i .stopped
        queue := []
        answers := p.answers ++ p.queue.map fun job => (job.number, failure .dropped) }

/-- **A move does one of these things.** -/
theorem steps_of_step {program : WorkerProgram} {p q : Pool} {m : Move}
    (h : p.step program m = some q) : Steps program p m q := by
  cases m with
  | submit t =>
    cases h
    unfold submit
    cases hs : p.isStopped with
    | true => exact .refused hs
    | false => exact .queued hs
  | cancel =>
    cases h
    exact .cancelled
  | take i =>
    obtain ⟨hc, process, job, rest, hs, hq, ⟨sent, hd, rfl⟩ | ⟨e, hd, rfl⟩⟩ := take_eq_some h
    · exact .taken hc hs hq hd
    · exact .unsent hc hs hq hd
  | finish i =>
    obtain ⟨hc, job, process, a, kept, notices, hs, hr, rfl⟩ := finish_eq_some h
    exact .finished hc hs hr
  | abandon i =>
    simp only [step, abandon] at h
    split_ifs at h with hc
    split at h <;> cases h
    next job process hs => exact .abandoned hc hs
  | stop i =>
    simp only [step, stop] at h
    split_ifs at h with hc hn <;> split at h <;> cases h
    · next process hs => exact .dropped hc hs hn
    · next process hs => exact .stopped hc hs (Bool.eq_false_iff.2 hn)

/-! ## Possible moves -/

/-- **A waiting slot can take a job** if there is one. -/
theorem exists_take (program : WorkerProgram) {p : Pool} (hc : p.cancelled = false) {i : Nat}
    {process : Option Process} (hs : p.slots[i]? = some (.waiting process))
    (hq : p.queue ≠ []) : (p.take program i).isSome := by
  obtain ⟨job, rest, hq⟩ := List.exists_cons_of_ne_nil hq
  unfold take
  rw [hc, if_neg Bool.false_ne_true, hs, hq]
  cases hd : dispatch program i process job.task <;> simp [hd]

/-- **A busy slot can finish its job** if there is something to make of what it reads. -/
theorem exists_finish {program : WorkerProgram} {p : Pool} (hc : p.cancelled = false) {i : Nat}
    {job : Job} {process : Process} (hs : p.slots[i]? = some (.busy job process))
    (hr : (settle program i process).isSome) : (p.finish program i).isSome := by
  unfold finish
  rw [hc, if_neg Bool.false_ne_true, hs]
  simp only [settle, Process.reading] at hr
  cases he : (readReply process.alive process.unread).2 <;> simp_all

/-! ## Counting moves -/

/-- The task that a move submits. -/
def submittedTask? : Move → Option Task
  | .submit t => some t
  | _ => none

/-- **The tasks that moves submit**, in their order. -/
def submittedTasks (moves : List Move) : List Task := moves.filterMap submittedTask?

/-- The number of the job that a slot is in the middle of. -/
def busyNumber? : Slot → Option Nat
  | .busy job _ => some job.number
  | _ => none

/-- **The numbers of the jobs that slots are in the middle of.** -/
def busyNumbers (p : Pool) : List Nat := p.slots.filterMap busyNumber?

theorem filterMap_cons_toList {α β : Type} (f : α → Option β) (a : α) (as : List α) :
    (a :: as).filterMap f = (f a).toList ++ as.filterMap f := by
  cases hf : f a <;> simp [hf]

/-- What a list picks changes in one place if the list does. -/
theorem filterMap_set_perm {α β : Type} (f : α → Option β) {as : List α} {i : Nat} {a : α}
    (h : as[i]? = some a) (b : α) :
    ((as.set i b).filterMap f ++ (f a).toList).Perm (as.filterMap f ++ (f b).toList) := by
  induction as generalizing i with
  | nil => cases h
  | cons c as ih =>
    cases i with
    | zero =>
      rw [List.getElem?_cons_zero, Option.some.injEq] at h
      subst h
      rw [List.set_cons_zero, filterMap_cons_toList, filterMap_cons_toList]
      -- What is picked at this place changes sides with what was picked there.
      apply List.perm_append_comm.trans
      rw [List.append_assoc]
      exact List.perm_append_comm.append_left _
    | succ i =>
      rw [List.getElem?_cons_succ] at h
      rw [List.set_cons_succ, filterMap_cons_toList, filterMap_cons_toList, List.append_assoc,
        List.append_assoc]
      exact (ih h).append_left _

/-- A slot that takes a job is busy with it. -/
theorem busyNumbers_busy {p q : Pool} {i : Nat} {process : Option Process} {job : Job}
    {sent : Process} (hs : p.slots[i]? = some (.waiting process))
    (hq : q.slots = p.slots.set i (.busy job sent)) :
    q.busyNumbers.Perm (job.number :: p.busyNumbers) := by
  have h := filterMap_set_perm busyNumber? hs (.busy job sent)
  rw [← hq] at h
  simpa [busyNumber?, busyNumbers] using h.trans List.perm_append_comm

/-- A waiting slot may change its process. -/
theorem busyNumbers_waiting {p q : Pool} {i : Nat} {process kept : Option Process}
    (hs : p.slots[i]? = some (.waiting process))
    (hq : q.slots = p.slots.set i (.waiting kept)) : q.busyNumbers.Perm p.busyNumbers := by
  have h := filterMap_set_perm busyNumber? hs (.waiting kept)
  rw [← hq] at h
  simpa [busyNumber?, busyNumbers] using h

/-- A slot that finishes its job is busy no more. -/
theorem busyNumbers_finished {p q : Pool} {i : Nat} {kept : Option Process} {job : Job}
    {process : Process} (hs : p.slots[i]? = some (.busy job process))
    (hq : q.slots = p.slots.set i (.waiting kept)) :
    (job.number :: q.busyNumbers).Perm p.busyNumbers := by
  have h := filterMap_set_perm busyNumber? hs (.waiting kept)
  rw [← hq] at h
  simpa [busyNumber?, busyNumbers] using List.perm_append_comm.trans h

/-- How many moves the jobs of a pool still allow. -/
def pending (p : Pool) : Nat := 2 * p.queue.length + p.busyNumbers.length

/-- **A move that submits nothing brings the pool nearer to its rest.** -/
theorem pending_step {program : WorkerProgram} {p q : Pool} (hc : p.cancelled = false) {m : Move}
    (hm : m ≠ .cancel) (h : p.step program m = some q) :
    q.cancelled = false ∧ q.pending + 1 ≤ p.pending + 3 * (submittedTask? m).toList.length := by
  cases m with
  | cancel => exact absurd rfl hm
  | submit t =>
    cases h
    unfold submit
    split_ifs
    · exact ⟨hc, by simp [pending, busyNumbers, answer, submittedTask?]⟩
    · -- The job is still to be taken and to be finished.
      refine ⟨hc, ?_⟩
      simp only [pending, busyNumbers, submittedTask?, List.length_append, List.length_singleton,
        Option.toList_some]
      omega
  | take i =>
    obtain ⟨-, process, job, rest, hs, hq, ⟨sent, -, he⟩ | ⟨e, -, he⟩⟩ := take_eq_some h
    · -- The job is only to be finished now.
      have hb := (busyNumbers_busy hs (congrArg slots he)).length_eq
      subst he
      refine ⟨hc, ?_⟩
      simp only [pending, hq, List.length_cons] at hb ⊢
      omega
    · -- The job is answered at once.
      have hb := (busyNumbers_waiting hs (congrArg slots he)).length_eq
      subst he
      refine ⟨hc, ?_⟩
      simp only [pending, hq, List.length_cons] at hb ⊢
      omega
  | finish i =>
    obtain ⟨-, job, process, a, kept, notices, hs, -, he⟩ := finish_eq_some h
    have hb := (busyNumbers_finished hs (congrArg slots he)).length_eq
    subst he
    refine ⟨hc, ?_⟩
    simp only [pending, List.length_cons] at hb ⊢
    omega
  -- Jobs are abandoned and slots stopped only when the pool is shut down.
  | abandon i =>
    simp only [step, abandon, hc, Bool.false_eq_true, if_false, reduceCtorEq] at h
  | stop i =>
    simp only [step, stop, hc, Bool.false_eq_true, if_false, reduceCtorEq] at h

theorem submittedTasks_cons (m : Move) (moves : List Move) :
    submittedTasks (m :: moves) = (submittedTask? m).toList ++ submittedTasks moves :=
  filterMap_cons_toList ..

theorem run_cons {program : WorkerProgram} {p q : Pool} {m : Move} {moves : List Move}
    (h : p.run program (m :: moves) = some q) :
    ∃ p', p.step program m = some p' ∧ p'.run program moves = some q := by
  rw [run, List.foldlM_cons] at h
  exact Option.bind_eq_some_iff.1 h

theorem run_cons_of_step {program : WorkerProgram} {p p' q : Pool} {m : Move} {moves : List Move}
    (hs : p.step program m = some p') (hr : p'.run program moves = some q) :
    p.run program (m :: moves) = some q := by
  rw [run, List.foldlM_cons]
  exact Option.bind_eq_some_iff.2 ⟨p', hs, hr⟩

theorem run_append {program : WorkerProgram} {p q : Pool} {before after : List Move} :
    p.run program (before ++ after) = some q ↔
      ∃ p', p.run program before = some p' ∧ p'.run program after = some q := by
  rw [run, List.foldlM_append]
  exact Option.bind_eq_some_iff

theorem run_single {program : WorkerProgram} {p q : Pool} {m : Move} :
    p.run program [m] = some q ↔ p.step program m = some q := by
  rw [run, List.foldlM_cons]
  exact Iff.of_eq (congrArg (· = some q) (bind_pure _))

/-- A pool keeps its number of slots. -/
theorem length_slots_step {program : WorkerProgram} {p q : Pool} {m : Move}
    (h : p.step program m = some q) : q.slots.length = p.slots.length := by
  cases steps_of_step h with
  | queued | refused | cancelled => rfl
  | taken | unsent | finished | abandoned | stopped | dropped => exact List.length_set

theorem length_slots_run {program : WorkerProgram} {moves : List Move} {p q : Pool}
    (h : p.run program moves = some q) : q.slots.length = p.slots.length := by
  induction moves generalizing p with
  | nil =>
    cases h
    rfl
  | cons m moves ih =>
    obtain ⟨p', hs, h⟩ := run_cons h
    rw [ih h, length_slots_step hs]

/-- Answers stay given. -/
theorem answers_step {program : WorkerProgram} {p q : Pool} {m : Move}
    (h : p.step program m = some q) : p.answers <+: q.answers := by
  cases steps_of_step h with
  | queued | cancelled | taken | stopped => exact List.prefix_rfl
  | refused | unsent | finished | abandoned | dropped => exact List.prefix_append ..

/-- **A job that is answered stays answered.** -/
theorem answer?_run {program : WorkerProgram} {moves : List Move} {p q : Pool}
    (h : p.run program moves = some q) {k : Nat} {a : Answer} (ha : p.answer? k = some a) :
    q.answer? k = some a := by
  induction moves generalizing p with
  | nil =>
    cases h
    exact ha
  | cons m moves ih =>
    obtain ⟨p', hs, h⟩ := run_cons h
    refine ih h ?_
    -- The first answer to a job is its answer.
    obtain ⟨given, hg⟩ := answers_step hs
    obtain ⟨b, hb, rfl⟩ := Option.map_eq_some_iff.1 ha
    rw [answer?, ← hg, List.find?_append, hb]
    rfl

/-- **There are at most three moves for each submitted task**, and what is pending besides. -/
theorem length_moves_le {program : WorkerProgram} {moves : List Move} {p q : Pool}
    (hc : p.cancelled = false) (hm : .cancel ∉ moves) (h : p.run program moves = some q) :
    moves.length + q.pending ≤ p.pending + 3 * (submittedTasks moves).length := by
  induction moves generalizing p with
  | nil =>
    cases h
    simp [submittedTasks]
  | cons m moves ih =>
    rw [List.mem_cons, not_or] at hm
    obtain ⟨p', hs, h⟩ := run_cons h
    obtain ⟨hc', hp⟩ := pending_step hc (Ne.symm hm.1) hs
    have := ih hc' hm.2 h
    rw [submittedTasks_cons, List.length_append, List.length_cons]
    omega

end SuitePool.Pool
