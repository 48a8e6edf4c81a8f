import Mathlib.Data.List.Basic
import Mathlib.Data.List.Nodup
import Mathlib.Tactic.Common
import SuitePool.Proofs.OutputIsolation
import SuitePool.Proofs.Pool.Soundness

/-!
# Shutting a pool down

A pool may be shut down at any moment: while slots wait, while they are in the middle of jobs, and
while tasks are still submitted.  Whatever the program of the workers does, every job is in the
queue, in the hands of one slot, or answered, and it stays answered as it was.  Once the pool is
shut down no job is handed out and no reply is read; slots only give up their jobs and stop, and
what is answered from then on is answered with an error of the pool.  When all slots have stopped
nothing is left without an answer.

## Main definitions

* `Pool.IsAccounted`: every job is in one place.
* `Pool.WindsDown`: what becomes of a pool after it was shut down.

## Main results

* `Pool.isAccounted_step`, `Pool.isAccounted_run`: every move keeps account of the jobs.
* `Pool.windsDown_step`, `Pool.windsDown_run`: a pool that was shut down winds down.
* `Pool.ok_run`: a value is the answer of a job only because a slot read it.
* `Pool.shutdown_is_safe`: all of this about every sequence of moves.
-/

namespace SuitePool.Pool

variable {program : WorkerProgram} {tasks : List Task} {p q : Pool}

/-! ## One move -/

/-- The numbers of all jobs: those in the queue, in the hands of slots, and answered. -/
def numbers (p : Pool) : List Nat :=
  p.queue.map (·.number) ++ (p.busyNumbers ++ p.answers.map (·.1))

/-- The number that a move gives to a new job. -/
def newNumber (p : Pool) (m : Move) : List Nat :=
  ((submittedTask? m).map fun _ => p.submitted).toList

/-- How often a number is in hand changes with the slot that changes. -/
theorem count_busyNumbers {i : Nat} {s : Slot} (hs : p.slots[i]? = some s) (s' : Slot) (k : Nat) :
    ((p.slots.set i s').filterMap busyNumber?).count k + (busyNumber? s).toList.count k =
      (p.slots.filterMap busyNumber?).count k + (busyNumber? s').toList.count k := by
  rw [← List.count_append, ← List.count_append]
  exact (filterMap_set_perm busyNumber? hs s').count_eq k

/-- **A move passes jobs on**, and only a submission adds one. -/
theorem numbers_step {m : Move} (h : p.step program m = some q) :
    q.numbers.Perm (p.numbers ++ p.newNumber m) := by
  -- Each number is found as often as before: it only leaves one place for another.
  rw [List.perm_iff_count]
  intro k
  simp only [numbers, busyNumbers, newNumber, List.count_append]
  cases steps_of_step h with
  | queued hs => simp [submittedTask?]; omega
  | refused hs => simp [submittedTask?]; omega
  | cancelled => simp [submittedTask?]
  | @taken i kept job rest process hc hs hq hd =>
    have hb := count_busyNumbers hs (.busy job process) k
    simp [busyNumber?, submittedTask?, hq, List.count_cons] at hb ⊢
    omega
  | unsent hc hs hq hd =>
    have hb := count_busyNumbers hs (.waiting none) k
    simp [busyNumber?, submittedTask?, hq, List.count_cons] at hb ⊢
    omega
  | @finished i job process a kept notices hc hs hr =>
    have hb := count_busyNumbers hs (.waiting kept) k
    simp [busyNumber?, submittedTask?] at hb ⊢
    omega
  | abandoned hc hs =>
    have hb := count_busyNumbers hs (.waiting none) k
    simp [busyNumber?, submittedTask?] at hb ⊢
    omega
  | stopped hc hs hn =>
    have hb := count_busyNumbers hs .stopped k
    simp [busyNumber?, submittedTask?] at hb ⊢
    omega
  | dropped hc hs hn =>
    have hb := count_busyNumbers hs .stopped k
    simp [busyNumber?, submittedTask?, Function.comp_def] at hb ⊢
    omega

/-- Not all slots have stopped if one was put into another state. -/
theorem isStopped_set {i : Nat} {s s' : Slot} (hs : p.slots[i]? = some s)
    (hs' : s'.isStopped = false) : (p.slots.set i s').all Slot.isStopped = false := by
  have hi : i < p.slots.length := (List.getElem?_eq_some_iff.1 hs).1
  rw [List.all_eq_false]
  exact ⟨s', List.mem_iff_getElem?.2 ⟨i, List.getElem?_set_self hi⟩, by simp [hs']⟩

/-! ## Accounting for jobs -/

/-- **Is every job in one place?**  The pool was given these tasks, and may have been shut down. -/
structure IsAccounted (program : WorkerProgram) (tasks : List Task) (p : Pool) : Prop where
  /-- All tasks were counted. -/
  submitted : p.submitted = tasks.length
  /-- Each job is in one place. -/
  numbers : p.numbers.Perm (List.range tasks.length)
  /-- The jobs of the queue are those that were submitted. -/
  queued : ∀ job ∈ p.queue, tasks[job.number]? = some job.task
  /-- A busy slot has sent the task of its job to its process. -/
  busy : ∀ (i : Nat) (job : Job) (process : Process), p.slots[i]? = some (.busy job process) →
    tasks[job.number]? = some job.task ∧
      ∃ kept, dispatch program i kept job.task = .ok process
  /-- Nothing waits when all slots have stopped. -/
  stopped : p.isStopped = true → p.queue = []

theorem isAccounted_ofSize (program : WorkerProgram) (size : Nat) :
    IsAccounted program [] (ofSize size) where
  submitted := rfl
  numbers := by
    rw [Pool.numbers, busyNumbers_ofSize]
    exact .refl _
  queued := by
    intro job h
    cases h
  busy := by
    intro i job process h
    cases (List.mem_replicate.1 (List.mem_of_getElem? h)).2
  stopped _ := rfl

namespace IsAccounted

/-- What is known of busy slots stays so while tasks are added. -/
theorem busy_append (h : IsAccounted program tasks p) (more : List Task) (i : Nat) (job : Job)
    (process : Process) (hs : p.slots[i]? = some (.busy job process)) :
    (tasks ++ more)[job.number]? = some job.task ∧
      ∃ kept, dispatch program i kept job.task = .ok process := by
  obtain ⟨ht, hd⟩ := h.busy i job process hs
  exact ⟨getElem?_append_of_some ht more, hd⟩

/-- A busy slot after a move was busy with its job before, or has just taken it. -/
theorem busy_step (h : IsAccounted program tasks p) {m : Move} (hs : p.step program m = some q)
    (i : Nat) (job : Job) (process : Process) (hi : q.slots[i]? = some (.busy job process)) :
    (tasks ++ (submittedTask? m).toList)[job.number]? = some job.task ∧
      ∃ kept, dispatch program i kept job.task = .ok process := by
  cases steps_of_step hs with
  | queued | refused | cancelled => exact h.busy_append _ i job process hi
  | taken hc hw hq hd =>
    rcases getElem?_set_cases hi with ⟨rfl, hbusy⟩ | hi
    · cases hbusy
      exact ⟨getElem?_append_of_some (h.queued job (hq ▸ List.mem_cons_self ..)) _, _, hd⟩
    · exact h.busy_append _ i job process hi
  | unsent | finished | abandoned | stopped | dropped =>
    rcases getElem?_set_cases hi with ⟨rfl, hbusy⟩ | hi
    · cases hbusy
    · exact h.busy_append _ i job process hi

/-- A job of the queue was there before the move, or is new. -/
theorem queued_step (h : IsAccounted program tasks p) {m : Move} (hs : p.step program m = some q) :
    ∀ job ∈ q.queue, (tasks ++ (submittedTask? m).toList)[job.number]? = some job.task := by
  intro job hj
  have hbefore : job ∈ p.queue →
      (tasks ++ (submittedTask? m).toList)[job.number]? = some job.task := fun hj =>
    getElem?_append_of_some (h.queued job hj) _
  cases steps_of_step hs with
  | queued =>
    rcases List.mem_append.1 hj with hj | hj
    · exact hbefore hj
    · rw [List.mem_singleton.1 hj, h.submitted]
      exact List.getElem?_concat_length ..
  | refused | cancelled | finished | abandoned | stopped => exact hbefore hj
  | taken hc hw hq | unsent hc hw hq => exact hbefore (hq ▸ List.mem_cons_of_mem _ hj)
  | dropped => cases hj

/-- The queue is dropped when the last slot stops, and later tasks are refused. -/
theorem stopped_step (h : IsAccounted program tasks p) {m : Move}
    (hs : p.step program m = some q) (hq : q.isStopped = true) : q.queue = [] := by
  cases steps_of_step hs with
  | queued hn => exact absurd (hn.symm.trans hq) Bool.false_ne_true
  | refused hn => exact h.stopped hn
  | cancelled => exact h.stopped hq
  | taken hc hw | unsent hc hw | finished hc hw | abandoned hc hw =>
    exact absurd ((isStopped_set hw rfl).symm.trans hq) Bool.false_ne_true
  | stopped hc hw hn => exact absurd (hn.symm.trans hq) Bool.false_ne_true
  | dropped => rfl

end IsAccounted

/-- **A move keeps account of the jobs.** -/
theorem isAccounted_step (h : IsAccounted program tasks p) {m : Move}
    (hs : p.step program m = some q) :
    IsAccounted program (tasks ++ (submittedTask? m).toList) q where
  submitted := by
    rw [List.length_append, ← h.submitted]
    cases steps_of_step hs <;> rfl
  numbers := by
    have hrange : List.range (tasks ++ (submittedTask? m).toList).length =
        List.range tasks.length ++ p.newNumber m := by
      rw [newNumber, h.submitted]
      cases submittedTask? m with
      | none => simp
      | some t => simp [List.range_succ]
    rw [hrange]
    exact (numbers_step hs).trans (h.numbers.append_right _)
  queued := h.queued_step hs
  busy := h.busy_step hs
  stopped := h.stopped_step hs

/-- **Every sequence of moves keeps account of the jobs**, whatever workers do and whenever the pool
is shut down. -/
theorem isAccounted_run {size : Nat} {moves : List Move}
    (hr : (ofSize size).run program moves = some p) :
    IsAccounted program (submittedTasks moves) p := by
  suffices h : ∀ {moves : List Move} {tasks : List Task} {p q : Pool},
      IsAccounted program tasks p → p.run program moves = some q →
        IsAccounted program (tasks ++ submittedTasks moves) q from
    h (isAccounted_ofSize program size) hr
  intro moves
  induction moves with
  | nil =>
    intro tasks p q h hr
    cases hr
    rwa [submittedTasks, List.filterMap_nil, List.append_nil]
  | cons m moves ih =>
    intro tasks p q h hr
    obtain ⟨p', hs, hr⟩ := run_cons hr
    rw [submittedTasks_cons, ← List.append_assoc]
    exact ih (isAccounted_step h hs) hr

namespace IsAccounted

/-- **No job is answered twice**, shut down or not. -/
theorem nodup_answers (h : IsAccounted program tasks p) : (p.answers.map (·.1)).Nodup := by
  have hn := h.numbers.nodup_iff.2 List.nodup_range
  exact (List.nodup_append.1 (List.nodup_append.1 hn).2.1).2.1

/-- A given answer is the answer of its job. -/
theorem answer?_of_mem (h : IsAccounted program tasks p) {k : Nat} {a : Answer}
    (ha : (k, a) ∈ p.answers) : p.answer? k = some a := by
  have hk : (p.answer? k).isSome := isSome_answer?_iff.2 (List.mem_map.2 ⟨_, ha, rfl⟩)
  obtain ⟨b, hb⟩ := Option.isSome_iff_exists.1 hk
  have heq : (k, b) = (k, a) :=
    List.inj_on_of_nodup_map h.nodup_answers (mem_answers_of_answer? hb) ha rfl
  rw [hb, (Prod.mk.inj heq).2]

/-- **When all slots have stopped every job is answered.** -/
theorem exists_answer?_of_isStopped (h : IsAccounted program tasks p) (hs : p.isStopped = true)
    {k : Nat} (hk : k < tasks.length) : ∃ a, p.answer? k = some a := by
  have hb : p.busyNumbers = [] := by
    rw [busyNumbers, List.filterMap_eq_nil_iff]
    intro s hmem
    have := List.all_eq_true.1 hs s hmem
    cases s with
    | stopped => rfl
    | waiting | busy => cases this
  have hmem := h.numbers.mem_iff.2 (List.mem_range.2 hk)
  rw [Pool.numbers, h.stopped hs, hb, List.map_nil, List.nil_append, List.nil_append] at hmem
  exact Option.isSome_iff_exists.1 (isSome_answer?_iff.2 hmem)

end IsAccounted

/-! ## After the shutdown -/

/-- Is an answer an error that a pool gives because it was shut down? -/
def IsShutdownError (a : Answer) : Prop :=
  a = failure .interrupted ∨ a = failure .dropped ∨ a = failure .refused

/-- **Has a pool that was shut down gone no further than winding down?** -/
structure WindsDown (p q : Pool) : Prop where
  /-- It stays shut down. -/
  cancelled : q.cancelled = true
  /-- A slot is as it was, or has lost its process. -/
  slots : ∀ i : Nat, q.slots[i]? = p.slots[i]? ∨ q.slots[i]? = some (.waiting none) ∨
    q.slots[i]? = some .stopped
  /-- Answers stay given, and only errors are added. -/
  answers : ∃ given, q.answers = p.answers ++ given ∧ ∀ a ∈ given, IsShutdownError a.2
  /-- A job in the middle of which its slot was is still there, or was interrupted. -/
  interrupted : ∀ (i : Nat) (job : Job) (process : Process),
    p.slots[i]? = some (.busy job process) → q.slots[i]? = some (.busy job process) ∨
      (job.number, failure .interrupted) ∈ q.answers

namespace WindsDown

theorem refl (h : p.cancelled = true) : WindsDown p p :=
  ⟨h, fun _ => .inl rfl, ⟨[], (List.append_nil _).symm, by simp⟩, fun _ _ _ hs => .inl hs⟩

theorem trans {r : Pool} (h : WindsDown p q) (h' : WindsDown q r) : WindsDown p r where
  cancelled := h'.cancelled
  slots i := by
    rcases h'.slots i with hi | hi
    · rw [hi]
      exact h.slots i
    · exact .inr hi
  answers := by
    obtain ⟨given, hq, hg⟩ := h.answers
    obtain ⟨given', hr, hg'⟩ := h'.answers
    refine ⟨given ++ given', by rw [hr, hq, List.append_assoc], ?_⟩
    intro a ha
    exact (List.mem_append.1 ha).elim (hg a) (hg' a)
  interrupted i job process hs := by
    rcases h.interrupted i job process hs with hi | hi
    · exact h'.interrupted i job process hi
    · obtain ⟨given', hr, -⟩ := h'.answers
      exact .inr (hr ▸ List.mem_append_left _ hi)

/-- A slot that lost its process has lost nothing else. -/
theorem of_set {i : Nat} {s s' : Slot} (hc : q.cancelled = true) (hs : p.slots[i]? = some s)
    (hslots : q.slots = p.slots.set i s') (hs' : s' = .waiting none ∨ s' = .stopped)
    {given : List (Nat × Answer)} (hq : q.answers = p.answers ++ given)
    (hg : ∀ a ∈ given, IsShutdownError a.2)
    (hbusy : ∀ job process, s = .busy job process → (job.number, failure .interrupted) ∈ given) :
    WindsDown p q where
  cancelled := hc
  slots j := by
    rw [hslots]
    by_cases hij : i = j
    · subst hij
      rw [List.getElem?_set_self (List.getElem?_eq_some_iff.1 hs).1]
      exact .inr (hs'.imp (congrArg some) (congrArg some))
    · exact .inl (List.getElem?_set_ne hij)
  answers := ⟨given, hq, hg⟩
  interrupted j job process hj := by
    by_cases hij : i = j
    · subst hij
      rw [hs, Option.some.injEq] at hj
      exact .inr (hq ▸ List.mem_append_right _ (hbusy job process hj))
    · exact .inl (by rw [hslots, List.getElem?_set_ne hij]; exact hj)

end WindsDown

/-- **A move of a pool that was shut down** hands out no job, reads no reply, and only winds the
pool down. -/
theorem windsDown_step (hc : p.cancelled = true) {m : Move} (h : p.step program m = some q) :
    (∀ i, m ≠ .take i ∧ m ≠ .finish i) ∧ WindsDown p q := by
  cases steps_of_step h with
  | queued hs => exact ⟨by simp, hc, fun _ => .inl rfl, ⟨[], by simp, by simp⟩,
      fun _ _ _ hs => .inl hs⟩
  | refused hs => exact ⟨by simp, hc, fun _ => .inl rfl,
      ⟨_, rfl, by simp [IsShutdownError]⟩, fun _ _ _ hs => .inl hs⟩
  | cancelled => exact ⟨by simp, rfl, fun _ => .inl rfl, ⟨[], by simp, by simp⟩,
      fun _ _ _ hs => .inl hs⟩
  -- A pool that is shut down has no other moves than to give up jobs and to stop.
  | taken hn | unsent hn | finished hn => exact absurd (hn.symm.trans hc) Bool.false_ne_true
  | abandoned _ hs =>
    refine ⟨by simp, .of_set hc hs rfl (.inl rfl) rfl (by simp [IsShutdownError]) ?_⟩
    rintro job process ⟨⟩
    exact List.mem_singleton_self _
  | stopped _ hs =>
    exact ⟨by simp, .of_set hc hs rfl (.inr rfl) (List.append_nil _).symm (by simp) (by simp)⟩
  | dropped _ hs =>
    exact ⟨by simp, .of_set hc hs rfl (.inr rfl) rfl (by simp [IsShutdownError]) (by simp)⟩

/-- **A pool that was shut down winds down**, whatever its moves. -/
theorem windsDown_run {moves : List Move} (hc : p.cancelled = true)
    (h : p.run program moves = some q) :
    (∀ m ∈ moves, ∀ i, m ≠ .take i ∧ m ≠ .finish i) ∧ WindsDown p q := by
  induction moves generalizing p with
  | nil =>
    cases h
    exact ⟨by simp, .refl hc⟩
  | cons m moves ih =>
    obtain ⟨p', hs, h⟩ := run_cons h
    obtain ⟨hm, hw⟩ := windsDown_step hc hs
    obtain ⟨hmoves, hw'⟩ := ih hw.cancelled h
    exact ⟨List.forall_mem_cons.2 ⟨hm, hmoves⟩, hw.trans hw'⟩

/-! ## Values -/

/-- **A slot has read a value**: in the middle of this job it was not shut down, and the first frame
that its process wrote reports the value. -/
structure Reads (program : WorkerProgram) (p : Pool) (i k : Nat) (t : Task) (value : Json) :
    Prop where
  /-- The pool was not shut down. -/
  notCancelled : p.cancelled = false
  /-- The slot is in the middle of the job, and its process was sent the task of the job. -/
  busy : ∃ process kept, p.slots[i]? = some (.busy ⟨k, t⟩ process) ∧
    dispatch program i kept t = .ok process ∧
    ∃ unread, process.reading = .reply (.done value) unread

theorem reading_of_settle {i : Nat} {process : Process} {value : Json} {kept : Option Process}
    (h : settle program i process = some (.ok value, kept)) :
    ∃ unread, process.reading = .reply (.done value) unread := by
  rw [settle] at h
  cases hr : process.reading with
  | waiting => rw [hr] at h; cases h
  | closed => rw [hr] at h; cases h
  | malformed => rw [hr] at h; cases h
  | reply r unread =>
    rw [hr] at h
    cases r with
    | done v =>
      cases h
      exact ⟨unread, rfl⟩
    | failed kind message => cases h

/-- A value is given by the slot that reads it. -/
theorem ok_step (ha : IsAccounted program tasks p) {m : Move} (h : p.step program m = some q)
    {k : Nat} {value : Json} (hk : (k, .ok value) ∈ q.answers) :
    (k, .ok value) ∈ p.answers ∨ ∃ i t, m = .finish i ∧ Reads program p i k t value := by
  cases steps_of_step h with
  | queued | cancelled | taken | stopped => exact .inl hk
  | refused | unsent | abandoned | dropped =>
    rcases List.mem_append.1 hk with hk | hk
    · exact .inl hk
    · simp [failure] at hk
  | @finished i job process a kept notices hc hs hr =>
    rcases List.mem_append.1 hk with hk | hk
    · exact .inl hk
    · rw [List.mem_singleton, Prod.mk.injEq] at hk
      obtain ⟨rfl, rfl⟩ := hk
      obtain ⟨-, kept', hd⟩ := ha.busy i job process hs
      exact .inr ⟨i, job.task, rfl, hc, process, kept', hs, hd, reading_of_settle hr⟩

/-- What comes behind a shutdown is run by a pool that was shut down. -/
theorem run_cancel {before after : List Move} {p₀ : Pool}
    (h₀ : p.run program before = some p₀)
    (h : p.run program (before ++ .cancel :: after) = some q) :
    ({ p₀ with cancelled := true } : Pool).run program after = some q := by
  obtain ⟨p', h', h⟩ := run_append.1 h
  obtain rfl := Option.some.inj (h₀.symm.trans h')
  obtain ⟨p'', hs, h⟩ := run_cons h
  cases hs
  exact h

/-- A pool that is not shut down never was. -/
theorem cancel_not_mem {moves : List Move} (h : p.run program moves = some q)
    (hq : q.cancelled = false) : .cancel ∉ moves := by
  intro hm
  obtain ⟨before, after, rfl⟩ := List.append_of_mem hm
  obtain ⟨p₀, h₀, -⟩ := run_append.1 h
  have hw := (windsDown_run rfl (run_cancel h₀ h)).2
  exact absurd (hq.symm.trans hw.cancelled) Bool.false_ne_true

/-- **A value is the answer of a job only because a slot read it** in the middle of this job. -/
theorem ok_run {size : Nat} {moves : List Move}
    (hr : (ofSize size).run program moves = some p) {k : Nat} {value : Json}
    (hk : (k, .ok value) ∈ p.answers) :
    ∃ before i after p₁ t, moves = before ++ .finish i :: after ∧
      (ofSize size).run program before = some p₁ ∧ Reads program p₁ i k t value := by
  induction moves using List.reverseRecOn generalizing p with
  | nil =>
    cases hr
    cases hk
  | append_singleton moves m ih =>
    obtain ⟨p', hr', hs⟩ := run_append.1 hr
    rcases ok_step (isAccounted_run hr') (run_single.1 hs) hk with hk | ⟨i, t, rfl, hread⟩
    · obtain ⟨before, i, after, p₁, t, rfl, h₁, hread⟩ := ih hr' hk
      exact ⟨before, i, after ++ [m], p₁, t, by simp, h₁, hread⟩
    · exact ⟨moves, i, [], p', t, rfl, hr', hread⟩

/-- **A value that was read is what the task of the job comes to alone**, if all tasks are tidy. -/
theorem answerAt_of_reads {size : Nat} {moves : List Move} {i k : Nat} {t : Task} {value : Json}
    (ht : ∀ t ∈ submittedTasks moves, ∀ i, IsTidy program i t)
    (hr : (ofSize size).run program moves = some p) (h : Reads program p i k t value) :
    answerAt program i t = some (.ok value) := by
  obtain ⟨process, -, hs, -, unread, hread⟩ := h.busy
  have hsound := isSound_run (cancel_not_mem hr h.notCancelled) ht hr
  -- The process was as good as new when it was sent the task.
  obtain ⟨-, hd⟩ := hsound.slots i _ hs
  simp only [answerAt, hd, settle, hread, Option.map_some, Reply.result]

/-! ## Shutting down is safe -/

/-- **Shutting a pool down is safe**, in whatever order slots are polled, tasks are submitted and
the pool is shut down.  A job is answered at most once.  It is answered with a value only if a slot
has read that value in the middle of this job, before the pool was shut down; the value is what the
task of the job comes to, provided that tasks leave their worker as good as new or ended.  Once the
pool is shut down no job is handed out, a job that a slot was in the middle of is interrupted and
its process is gone, and every job that had no answer gets an error of the pool, at the latest when
the last slot stops. -/
theorem shutdown_is_safe {size : Nat} {moves : List Move}
    (hr : (ofSize size).run program moves = some p) :
    (p.answers.map (·.1)).Nodup ∧
    (∀ k value, p.answer? k = some (.ok value) →
      ∃ before i after p₁ t, moves = before ++ .finish i :: after ∧ .cancel ∉ before ∧
        (ofSize size).run program before = some p₁ ∧ (submittedTasks moves)[k]? = some t ∧
        Reads program p₁ i k t value ∧
        ((∀ t ∈ submittedTasks moves, ∀ i, IsTidy program i t) →
          answerAt program i t = some (.ok value))) ∧
    ∀ before after p₀, moves = before ++ .cancel :: after →
      (ofSize size).run program before = some p₀ →
        (∀ m ∈ after, ∀ i, m ≠ .take i ∧ m ≠ .finish i) ∧
        (∀ i : Nat, p.slots[i]? = p₀.slots[i]? ∨ p.slots[i]? = some (.waiting none) ∨
          p.slots[i]? = some .stopped) ∧
        (∀ (i : Nat) (job : Job) (process : Process), p₀.slots[i]? = some (.busy job process) →
          p.slots[i]? = some (.busy job process) ∨
            p.answer? job.number = some (failure .interrupted)) ∧
        (∀ k a, p₀.answer? k = some a → p.answer? k = some a) ∧
        (∀ k a, p.answer? k = some a → p₀.answer? k = some a ∨ IsShutdownError a) ∧
        (p.isStopped = true → ∀ k < (submittedTasks moves).length, ∃ a, p.answer? k = some a) := by
  have hp := isAccounted_run hr
  refine ⟨hp.nodup_answers, ?_, ?_⟩
  · intro k value hk
    obtain ⟨before, i, after, p₁, t, hm, h₁, hread⟩ := ok_run hr (mem_answers_of_answer? hk)
    have hsub : submittedTasks moves = submittedTasks before ++ submittedTasks after := by
      rw [hm, submittedTasks, List.filterMap_append]
      rfl
    obtain ⟨process, -, hs, -⟩ := hread.busy
    refine ⟨before, i, after, p₁, t, hm, cancel_not_mem h₁ hread.notCancelled, h₁, ?_, hread, ?_⟩
    · rw [hsub]
      exact getElem?_append_of_some ((isAccounted_run h₁).busy i _ process hs).1 _
    · intro htidy
      exact answerAt_of_reads (fun t ht => htidy t (hsub ▸ List.mem_append_left _ ht)) h₁ hread
  · rintro before after p₀ rfl h₀
    obtain ⟨hmoves, hw⟩ := windsDown_run rfl (run_cancel h₀ hr)
    obtain ⟨given, hanswers, hgiven⟩ := hw.answers
    have h₀' := isAccounted_run h₀
    refine ⟨hmoves, hw.slots, fun i job process hs => ?_, fun k a ha => ?_, fun k a ha => ?_,
      fun hstopped k hk => hp.exists_answer?_of_isStopped hstopped hk⟩
    · exact (hw.interrupted i job process hs).imp_right hp.answer?_of_mem
    · apply hp.answer?_of_mem
      rw [hanswers]
      exact List.mem_append_left _ (mem_answers_of_answer? ha)
    · have hmem := mem_answers_of_answer? ha
      rw [hanswers] at hmem
      exact (List.mem_append.1 hmem).imp (fun h => h₀'.answer?_of_mem h) fun h => hgiven _ h

/-- A program that takes tasks and never answers. -/
def silentProgram : WorkerProgram := ⟨none, fun _ _ => ⟨[], true, none⟩, fun _ => ""⟩

/-- A task is taken before the shutdown, one waits, one comes between it and the last slot's end,
and one later. -/
def shutdownMoves : List Move :=
  [.submit (.runTestIds []), .submit (.runTestIds []), .take 0] ++
    .cancel :: [.submit (.runTestIds []), .abandon 0, .stop 0, .submit (.runTestIds [])]

/-- **All four jobs are answered** when the only slot has stopped, though the worker never does. -/
theorem shutdown_answers_all :
    ∃ p, (ofSize 1).run silentProgram shutdownMoves = some p ∧ p.isStopped = true ∧
      ∀ k < 4, ∃ a, p.answer? k = some a := by
  have hrun : ((ofSize 1).run silentProgram shutdownMoves).map isStopped = some true := by
    decide +kernel
  obtain ⟨p, hp, hstopped⟩ := Option.map_eq_some_iff.1 hrun
  obtain ⟨p₀, h₀, -⟩ := run_append.1 hp
  exact ⟨p, hp, hstopped, ((shutdown_is_safe hp).2.2 _ _ p₀ rfl h₀).2.2.2.2.2 hstopped⟩

/-- The task of a suite that forges a report, and then one whose id has no suite. -/
def forgedMoves : List Move :=
  [.submit soloTask, .submit (.runTestIds [.ofParts "m" "Other" "test_two"]), .take 0, .finish 0,
    .take 0, .finish 0]

open scoped Terse in
/-- **A job may be answered with the reply to another one's task**: the forged report answers the
first job, and the true report of its task is then read as the reply to the second task, which is
an error. -/
theorem answered_with_other_reply :
    ((((ofSize 1).run (ownProgram 4 forgingSite) forgedMoves).bind (·.answer? 1)).bind
        Except.toOption).map Json.write = some soloReport.stored.write ∧
      soloTask.reply? (forgingSite.forSlot 0) = some (.done soloReport.stored) ∧
      (Task.runTestIds [.ofParts "m" "Other" "test_two"]).reply? (forgingSite.forSlot 0) =
        some (.failed .notFound (Error.suiteNotFound "m.Other").message) := by
  have hsolo : ((forgingSite.forSlot 0).registry.runIds (forgingSite.forSlot 0).host
      [soloId]).ending = .finished soloReport := by
    decide +kernel
  have hother : ((forgingSite.forSlot 0).registry.runIds (forgingSite.forSlot 0).host
      [.ofParts "m" "Other" "test_two"]).ending = .failed (.suiteNotFound "m.Other") := by
    decide +kernel
  refine ⟨by decide +kernel, ?_, ?_⟩
  · rw [soloTask, Task.reply?_runTestIds, hsolo]
  · rw [Task.reply?_runTestIds, hother]
    rfl

end SuitePool.Pool
