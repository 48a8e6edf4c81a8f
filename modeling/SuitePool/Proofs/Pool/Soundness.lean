import Mathlib.Data.List.Basic
import Mathlib.Tactic.Common
import SuitePool.Proofs.Pool.Moves

/-!
# What holds of every reachable pool

Tasks are *tidy* for a program if a new process that is sent one of them can be read to an end, and
is as good as new afterwards or thrown away.  Of a pool that was given tidy tasks and not shut down
the following holds after every sequence of moves.  The process that a waiting slot keeps is as good
as new; so the process of a busy slot is one that was new when it was sent the job, and what the
slot makes of it is what the task comes to at that slot alone.  Jobs leave the queue in the order
of their numbers, and each that left is either in the hands of one slot or answered once.

## Main definitions

* `Pool.answerAt`: what a task comes to at a slot whose process is new.
* `Pool.IsTidy`: a task that leaves a process as good as new, or ended.
* `Pool.IsSound`: the invariant.
* `Pool.handouts`: the jobs that moves hand to slots.

## Main results

* `Pool.isSound_step`, `Pool.isSound_run`: the invariant is kept.
* `Pool.handouts_eq_range`: every job is handed out at most once, in the order of numbers.
* `Pool.IsSound.exists_move`: a job without an answer leaves a move to make.
-/

namespace SuitePool.Pool

variable {program : WorkerProgram} {tasks : List Task} {p q : Pool}

/-! ## Tasks alone -/

/-- **What a task comes to at a slot whose process is new.** -/
def answerAt (program : WorkerProgram) (i : Nat) (t : Task) : Option Answer :=
  match dispatch program i none t with
  | .error e => some (failure e)
  | .ok sent => (settle program i sent).map (·.1)

/-- **Does a task leave a new process as good as new**, or is the process thrown away? -/
def IsTidy (program : WorkerProgram) (i : Nat) (t : Task) : Prop :=
  ∀ sent, dispatch program i none t = .ok sent →
    ∃ a kept, settle program i sent = some (a, kept) ∧ (kept = none ∨ kept = some .fresh)

/-- A process that is as good as new is sent a task as a new one is. -/
theorem dispatch_fresh (hr : program.refusal = none) (i : Nat) (t : Task) :
    dispatch program i (some .fresh) t = dispatch program i none t := by
  simp only [dispatch, processFor, hr]

theorem refusal_of_dispatch {i : Nat} {t : Task} {sent : Process}
    (h : dispatch program i none t = .ok sent) : program.refusal = none := by
  cases hr : program.refusal with
  | none => rfl
  | some e =>
    simp only [dispatch, processFor, hr] at h
    cases h

/-! ## The invariant -/

/-- The jobs of tasks, numbered in their order. -/
def jobsOf (tasks : List Task) : List Job := tasks.mapIdx Job.mk

theorem jobsOf_append (tasks : List Task) (t : Task) :
    jobsOf (tasks ++ [t]) = jobsOf tasks ++ [⟨tasks.length, t⟩] :=
  List.mapIdx_concat

theorem length_jobsOf (tasks : List Task) : (jobsOf tasks).length = tasks.length :=
  List.length_mapIdx

/-- How many jobs have left the queue. -/
def handed (p : Pool) : Nat := p.submitted - p.queue.length

/-- **Is a slot in order?** -/
def SlotIsSound (program : WorkerProgram) (tasks : List Task) (i : Nat) : Slot → Prop
  | .waiting none => True
  | .waiting (some process) => process = .fresh ∧ program.refusal = none
  | .busy job process =>
    tasks[job.number]? = some job.task ∧ dispatch program i none job.task = .ok process
  | .stopped => False

/-- **Is a pool in order**, that was given these tasks? -/
structure IsSound (program : WorkerProgram) (tasks : List Task) (p : Pool) : Prop where
  /-- It was not shut down. -/
  notCancelled : p.cancelled = false
  /-- All tasks were counted. -/
  submitted : p.submitted = tasks.length
  /-- The queue holds the last jobs. -/
  queue : p.queue = (jobsOf tasks).drop p.handed
  /-- There is a slot. -/
  size : 0 < p.slots.length
  /-- All slots are in order. -/
  slots : ∀ (i : Nat) (s : Slot), p.slots[i]? = some s → SlotIsSound program tasks i s
  /-- Jobs that left the queue are in the hands of one slot, or answered once. -/
  numbers : (p.busyNumbers ++ p.answers.map (·.1)).Perm (List.range p.handed)
  /-- A single slot takes jobs in turn. -/
  inTurn : p.slots.length = 1 → p.answers.map (·.1) ++ p.busyNumbers = List.range p.handed
  /-- A job is answered with what its task comes to at some slot alone. -/
  answers : ∀ (k : Nat) (a : Answer), (k, a) ∈ p.answers →
    ∃ t i, tasks[k]? = some t ∧ i < p.slots.length ∧ answerAt program i t = some a

theorem busyNumbers_ofSize (size : Nat) : (ofSize size).busyNumbers = [] := by
  rw [busyNumbers, List.filterMap_eq_nil_iff]
  intro s hs
  rw [(List.mem_replicate.1 hs).2]
  rfl

theorem length_slots_ofSize (size : Nat) : (ofSize size).slots.length = max 1 size :=
  List.length_replicate

/-- **There are at most three moves for each submitted task** of a pool that was new. -/
theorem length_moves_ofSize_le {size : Nat} {moves : List Move} (hm : .cancel ∉ moves)
    (hr : (ofSize size).run program moves = some p) :
    moves.length ≤ 3 * (submittedTasks moves).length := by
  have h := length_moves_le rfl hm hr
  have hp : (ofSize size).pending = 0 := by
    rw [pending, busyNumbers_ofSize]
    rfl
  omega

/-- A new pool is in order. -/
theorem isSound_ofSize (program : WorkerProgram) (size : Nat) :
    IsSound program [] (ofSize size) where
  notCancelled := rfl
  submitted := rfl
  queue := rfl
  size := by
    rw [ofSize, List.length_replicate]
    omega
  slots := by
    intro i s hs
    have hm := List.mem_of_getElem? hs
    rw [(List.mem_replicate.1 hm).2]
    trivial
  numbers := by
    rw [busyNumbers_ofSize]
    exact .refl _
  inTurn _ := by
    rw [busyNumbers_ofSize]
    rfl
  answers := by
    intro k a h
    cases h

namespace IsSound

theorem length_queue_le (h : IsSound program tasks p) : p.queue.length ≤ p.submitted := by
  rw [h.queue, List.length_drop, length_jobsOf, h.submitted]
  exact Nat.sub_le ..

/-- The next job is the first that was not handed out. -/
theorem getElem?_jobsOf (h : IsSound program tasks p) {job : Job} {rest : List Job}
    (hq : p.queue = job :: rest) : (jobsOf tasks)[p.handed]? = some job := by
  rw [← List.head?_drop, ← h.queue, hq, List.head?_cons]

theorem number_eq (h : IsSound program tasks p) {job : Job} {rest : List Job}
    (hq : p.queue = job :: rest) :
    job.number = p.handed ∧ tasks[p.handed]? = some job.task := by
  have hj := h.getElem?_jobsOf hq
  rw [jobsOf, List.getElem?_mapIdx, Option.map_eq_some_iff] at hj
  obtain ⟨t, ht, rfl⟩ := hj
  exact ⟨rfl, ht⟩

theorem queue_tail (h : IsSound program tasks p) {job : Job} {rest : List Job}
    (hq : p.queue = job :: rest) : rest = (jobsOf tasks).drop (p.handed + 1) := by
  rw [← List.tail_drop, ← h.queue, hq, List.tail_cons]

theorem handed_take (h : IsSound program tasks p) {job : Job} {rest : List Job}
    (hq : p.queue = job :: rest) : p.submitted - rest.length = p.handed + 1 := by
  have hl := h.length_queue_le
  rw [handed]
  rw [hq, List.length_cons] at hl ⊢
  omega

/-- Slots stay in order while tasks are added. -/
theorem slots_append (h : IsSound program tasks p) (ts : List Task) (i : Nat) (s : Slot)
    (hs : p.slots[i]? = some s) : SlotIsSound program (tasks ++ ts) i s := by
  have hi := h.slots i s hs
  cases s with
  | waiting process => cases process <;> exact hi
  | stopped => exact hi
  | busy job process => exact ⟨getElem?_append_of_some hi.1 ts, hi.2⟩

/-- Slots stay in order when one is put in order anew. -/
theorem slots_set (h : IsSound program tasks p) {i : Nat} {s : Slot}
    (hs : SlotIsSound program tasks i s) (j : Nat) (s' : Slot)
    (hj : (p.slots.set i s)[j]? = some s') : SlotIsSound program tasks j s' := by
  rcases getElem?_set_cases hj with ⟨rfl, rfl⟩ | hj
  · exact hs
  · exact h.slots j s' hj

theorem dispatch_eq (h : IsSound program tasks p) {i : Nat} {process : Option Process}
    (hs : p.slots[i]? = some (.waiting process)) (t : Task) :
    dispatch program i process t = dispatch program i none t := by
  cases process with
  | none => rfl
  | some process =>
    obtain ⟨rfl, hr⟩ := h.slots i _ hs
    exact dispatch_fresh hr i t

theorem not_isStopped (h : IsSound program tasks p) : p.isStopped = false := by
  obtain ⟨s, more, hp⟩ := List.exists_cons_of_length_pos h.size
  have hs := h.slots 0 s (by rw [hp, List.getElem?_cons_zero])
  rw [isStopped, hp, List.all_cons]
  cases s with
  | waiting process => rfl
  | busy job process => rfl
  | stopped => exact hs.elim

/-- A single slot has all that is in hand. -/
theorem busyNumbers_single (hl : p.slots.length = 1) {i : Nat} {s : Slot}
    (hs : p.slots[i]? = some s) : p.busyNumbers = (busyNumber? s).toList := by
  obtain ⟨s', hp⟩ := List.length_eq_one_iff.1 hl
  have hi : i = 0 := by
    have := (List.getElem?_eq_some_iff.1 hs).1
    omega
  rw [hi, hp, List.getElem?_cons_zero, Option.some.injEq] at hs
  rw [busyNumbers, hp, hs, filterMap_cons_toList, List.filterMap_nil, List.append_nil]

end IsSound

/-! ## Moves keep the invariant -/

theorem isSound_submit (h : IsSound program tasks p) (t : Task) :
    IsSound program (tasks ++ [t]) (p.submit t) := by
  have hl := h.length_queue_le
  -- The job goes to the end of the queue, so as many jobs have left it as before.
  have hh : (p.submitted + 1) - (p.queue ++ [(⟨p.submitted, t⟩ : Job)]).length = p.handed := by
    rw [List.length_append, List.length_singleton, handed]
    omega
  rw [submit, h.not_isStopped, if_neg Bool.false_ne_true]
  exact {
    notCancelled := h.notCancelled
    submitted := by
      rw [List.length_append, List.length_singleton, ← h.submitted]
    queue := by
      show p.queue ++ [(⟨p.submitted, t⟩ : Job)] = (jobsOf (tasks ++ [t])).drop _
      rw [handed, hh, jobsOf_append, List.drop_append_of_le_length, ← h.queue, h.submitted]
      rw [length_jobsOf, ← h.submitted]
      exact Nat.sub_le ..
    size := h.size
    slots := h.slots_append [t]
    numbers := by
      rw [handed, hh]
      exact h.numbers
    inTurn := by
      rw [handed, hh]
      exact h.inTurn
    answers := by
      intro k a ha
      obtain ⟨t', i, ht, hi, hr⟩ := h.answers k a ha
      exact ⟨t', i, getElem?_append_of_some ht _, hi, hr⟩ }

/-- Answers stay right when a right one is given. -/
theorem IsSound.answers_append (h : IsSound program tasks p) {i : Nat} (hi : i < p.slots.length)
    {job : Job} (ht : tasks[job.number]? = some job.task) {a : Answer}
    (ha : answerAt program i job.task = some a) (k : Nat) (b : Answer)
    (hk : (k, b) ∈ p.answers ++ [(job.number, a)]) :
    ∃ t i, tasks[k]? = some t ∧ i < p.slots.length ∧ answerAt program i t = some b := by
  rcases List.mem_append.1 hk with hk | hk
  · exact h.answers k b hk
  · rw [List.mem_singleton, Prod.mk.injEq] at hk
    obtain ⟨rfl, rfl⟩ := hk
    exact ⟨job.task, i, ht, hi, ha⟩

theorem isSound_take (h : IsSound program tasks p) {i : Nat} (hs : p.take program i = some q) :
    IsSound program tasks q := by
  obtain ⟨hc, process, job, rest, hw, hq, hd⟩ := take_eq_some hs
  obtain ⟨hn, ht⟩ := h.number_eq hq
  have hhanded := h.handed_take hq
  have hi : i < p.slots.length := (List.getElem?_eq_some_iff.1 hw).1
  have hrange : List.range (p.handed + 1) = List.range p.handed ++ [job.number] := by
    rw [List.range_succ, hn]
  rw [← hn] at ht
  rcases hd with ⟨sent, hd, he⟩ | ⟨e, hd, he⟩ <;> rw [h.dispatch_eq hw] at hd
  · -- The slot is busy with the job, in the hands of a process that was as good as new.
    have hb := busyNumbers_busy hw (congrArg Pool.slots he)
    have hsingle : q.slots.length = 1 → q.busyNumbers = [job.number] := fun hl =>
      IsSound.busyNumbers_single hl (i := i) (s := .busy job sent) (by simp [he, hi])
    subst he
    exact {
      notCancelled := hc
      submitted := h.submitted
      queue := by
        rw [handed, hhanded]
        exact h.queue_tail hq
      size := by rw [List.length_set]; exact h.size
      slots := h.slots_set ⟨ht, hd⟩
      numbers := by
        rw [handed, hhanded, hrange]
        apply (hb.append_right _).trans
        exact (h.numbers.cons job.number).trans (List.perm_append_singleton ..).symm
      inTurn := by
        intro hl
        rw [hsingle hl]
        rw [List.length_set] at hl
        -- The only slot was waiting, so all jobs handed out before are answered.
        have hbefore := h.inTurn hl
        rw [IsSound.busyNumbers_single hl hw] at hbefore
        rw [handed, hhanded, hrange, ← hbefore]
        simp [busyNumber?]
      answers := by
        rw [List.length_set]
        exact h.answers }
  · -- The task could not be sent, so the job is answered at once and the slot waits on.
    have hb := busyNumbers_waiting hw (congrArg Pool.slots he)
    have hsingle : q.slots.length = 1 → q.busyNumbers = [] := fun hl =>
      IsSound.busyNumbers_single hl (i := i) (s := .waiting none) (by simp [he, hi])
    subst he
    exact {
      notCancelled := hc
      submitted := h.submitted
      queue := by
        rw [handed, hhanded]
        exact h.queue_tail hq
      size := by rw [List.length_set]; exact h.size
      slots := h.slots_set trivial
      numbers := by
        rw [handed, hhanded, hrange, List.map_append, ← List.append_assoc]
        exact ((hb.append_right _).trans h.numbers).append_right _
      inTurn := by
        intro hl
        rw [hsingle hl]
        rw [List.length_set] at hl
        have hbefore := h.inTurn hl
        rw [IsSound.busyNumbers_single hl hw] at hbefore
        rw [handed, hhanded, hrange, ← hbefore]
        simp [busyNumber?]
      answers := by
        rw [List.length_set]
        exact h.answers_append hi ht (by simp only [answerAt, hd]) }

theorem isSound_finish (h : IsSound program tasks p) (ht : ∀ t ∈ tasks, ∀ i, IsTidy program i t)
    {i : Nat} (hs : p.finish program i = some q) : IsSound program tasks q := by
  obtain ⟨hc, job, process, a, kept, notices, hw, hset, he⟩ := finish_eq_some hs
  have hi : i < p.slots.length := (List.getElem?_eq_some_iff.1 hw).1
  obtain ⟨hj, hd⟩ := h.slots i _ hw
  have hb := busyNumbers_finished hw (congrArg Pool.slots he)
  -- The process was as good as new when it was sent the job, and the task is tidy.
  have hkept : SlotIsSound program tasks i (.waiting kept) := by
    obtain ⟨a', kept', hset', hk⟩ := ht job.task (List.mem_of_getElem? hj) i process hd
    rw [hset, Option.some.injEq, Prod.mk.injEq] at hset'
    obtain ⟨rfl, rfl⟩ := hset'
    rcases hk with rfl | rfl
    · trivial
    · exact ⟨rfl, refusal_of_dispatch hd⟩
  have hsingle : q.slots.length = 1 → q.busyNumbers = [] := fun hl =>
    IsSound.busyNumbers_single hl (i := i) (s := .waiting kept) (by simp [he, hi])
  subst he
  exact {
    notCancelled := hc
    submitted := h.submitted
    queue := h.queue
    size := by rw [List.length_set]; exact h.size
    slots := h.slots_set hkept
    numbers := by
      refine List.Perm.trans ?_ h.numbers
      rw [List.map_append]
      refine List.Perm.trans ?_ (hb.append_right _)
      rw [← List.append_assoc]
      exact List.perm_append_singleton ..
    inTurn := by
      intro hl
      rw [hsingle hl]
      rw [List.length_set] at hl
      have hbefore := h.inTurn hl
      rw [IsSound.busyNumbers_single hl hw] at hbefore
      show _ = List.range p.handed
      rw [← hbefore]
      simp [busyNumber?]
    answers := by
      rw [List.length_set]
      apply h.answers_append hi hj
      simp only [answerAt, hd, hset, Option.map_some] }

/-- **A move keeps a pool in order** that is not shut down. -/
theorem isSound_step (h : IsSound program tasks p) (ht : ∀ t ∈ tasks, ∀ i, IsTidy program i t)
    {m : Move} (hm : m ≠ .cancel) (hs : p.step program m = some q) :
    IsSound program (tasks ++ (submittedTask? m).toList) q := by
  cases m with
  | cancel => exact absurd rfl hm
  | submit t =>
    cases hs
    exact isSound_submit h t
  | take i =>
    rw [show (submittedTask? (.take i)).toList = [] from rfl, List.append_nil]
    exact isSound_take h hs
  | finish i =>
    rw [show (submittedTask? (.finish i)).toList = [] from rfl, List.append_nil]
    exact isSound_finish h ht hs
  | abandon i => simp [step, abandon, h.notCancelled] at hs
  | stop i => simp [step, stop, h.notCancelled] at hs

theorem isSound_run_of_isSound {moves : List Move} (h : IsSound program tasks p)
    (ht : ∀ t ∈ tasks ++ submittedTasks moves, ∀ i, IsTidy program i t) (hm : .cancel ∉ moves)
    (hr : p.run program moves = some q) : IsSound program (tasks ++ submittedTasks moves) q := by
  induction moves generalizing p tasks with
  | nil =>
    cases hr
    rwa [submittedTasks, List.filterMap_nil, List.append_nil]
  | cons m moves ih =>
    rw [List.mem_cons, not_or] at hm
    obtain ⟨p', hs, hr⟩ := run_cons hr
    -- What the first move submits counts among the tasks given before the others.
    rw [submittedTasks_cons, ← List.append_assoc] at ht ⊢
    refine ih (isSound_step h (fun t hmem => ht t ?_) (Ne.symm hm.1) hs) ht hm.2 hr
    rw [List.append_assoc]
    exact List.mem_append_left _ hmem

/-- **A pool that is not shut down stays in order**, whatever the order of its moves. -/
theorem isSound_run {size : Nat} {moves : List Move} (hm : .cancel ∉ moves)
    (ht : ∀ t ∈ submittedTasks moves, ∀ i, IsTidy program i t)
    (hr : (ofSize size).run program moves = some p) :
    IsSound program (submittedTasks moves) p :=
  isSound_run_of_isSound (isSound_ofSize program size) ht hm hr

/-! ## Handing out jobs -/

/-- The job that a move hands to a slot, by number, with the slot. -/
def handout? (p : Pool) : Move → Option (Nat × Nat)
  | .take i => p.queue.head?.map fun job => (job.number, i)
  | _ => none

/-- **The jobs that moves hand to slots**, by number, each with its slot. -/
def handouts (program : WorkerProgram) (p : Pool) : List Move → List (Nat × Nat)
  | [] => []
  | m :: moves =>
    (p.handout? m).toList ++
      match p.step program m with
      | some q => handouts program q moves
      | none => []

/-- A move hands out the next job or none. -/
theorem handed_step (h : IsSound program tasks p) {m : Move} (hm : m ≠ .cancel)
    (hs : p.step program m = some q) :
    List.range q.handed = List.range p.handed ++ (p.handout? m).toList.map (·.1) := by
  cases m with
  | cancel => exact absurd rfl hm
  | submit t =>
    have hl := h.length_queue_le
    cases hs
    rw [submit, h.not_isStopped, if_neg Bool.false_ne_true]
    simp only [handed, handout?, List.length_append, List.length_singleton]
    rw [Nat.add_sub_add_right]
    exact (List.append_nil _).symm
  | take i =>
    obtain ⟨-, process, job, rest, hw, hq, hd⟩ := take_eq_some hs
    have hh : q.handed = p.handed + 1 := by
      rw [← h.handed_take hq]
      rcases hd with ⟨sent, -, rfl⟩ | ⟨e, -, rfl⟩ <;> rfl
    rw [hh, List.range_succ, ← (h.number_eq hq).1, handout?, hq]
    rfl
  | finish i =>
    obtain ⟨-, job, process, a, kept, notices, hw, -, rfl⟩ := finish_eq_some hs
    exact (List.append_nil _).symm
  | abandon i => simp [step, abandon, h.notCancelled] at hs
  | stop i => simp [step, stop, h.notCancelled] at hs

theorem handouts_of_isSound {moves : List Move} (h : IsSound program tasks p)
    (ht : ∀ t ∈ tasks ++ submittedTasks moves, ∀ i, IsTidy program i t) (hm : .cancel ∉ moves)
    (hr : p.run program moves = some q) :
    List.range p.handed ++ (handouts program p moves).map (·.1) = List.range q.handed := by
  induction moves generalizing p tasks with
  | nil =>
    cases hr
    exact List.append_nil _
  | cons m moves ih =>
    rw [List.mem_cons, not_or] at hm
    obtain ⟨p', hs, hr⟩ := run_cons hr
    rw [submittedTasks_cons, ← List.append_assoc] at ht
    have hp' := isSound_step h (fun t hmem => ht t
      (List.mem_append_left _ (List.mem_append_left _ hmem))) (Ne.symm hm.1) hs
    -- The later moves go on where the first one stopped.
    have hlater := ih hp' ht hm.2 hr
    rw [handed_step h (Ne.symm hm.1) hs, List.append_assoc] at hlater
    rw [handouts, hs, List.map_append]
    exact hlater

/-- **Every job is handed out at most once**, in the order of numbers. -/
theorem handouts_eq_range {size : Nat} {moves : List Move} (hm : .cancel ∉ moves)
    (ht : ∀ t ∈ submittedTasks moves, ∀ i, IsTidy program i t)
    (hr : (ofSize size).run program moves = some p) :
    (handouts program (ofSize size) moves).map (·.1) = List.range p.handed :=
  handouts_of_isSound (isSound_ofSize program size) ht hm hr

/-! ## Answers and progress -/

theorem mem_answers_of_answer? {k : Nat} {a : Answer} (h : p.answer? k = some a) :
    (k, a) ∈ p.answers := by
  obtain ⟨⟨k', a'⟩, hf, rfl⟩ := Option.map_eq_some_iff.1 h
  have hk : k' = k := by simpa using List.find?_some hf
  subst hk
  exact List.mem_of_find?_eq_some hf

theorem isSome_answer?_iff {k : Nat} : (p.answer? k).isSome ↔ k ∈ p.answers.map (·.1) := by
  rw [answer?, Option.isSome_map, List.find?_isSome, List.mem_map]
  simp only [beq_iff_eq]

namespace IsSound

/-- **No job is answered twice.** -/
theorem nodup_answers (h : IsSound program tasks p) : (p.answers.map (·.1)).Nodup := by
  -- A job that left the queue is accounted for once.
  have hn := h.numbers.nodup_iff.2 List.nodup_range
  exact (List.nodup_append.1 hn).2.1

/-- **An answered job is answered with what its task comes to** at some slot alone. -/
theorem answerAt_of_answer? (h : IsSound program tasks p) {k : Nat} {a : Answer}
    (ha : p.answer? k = some a) :
    ∃ t i, tasks[k]? = some t ∧ i < p.slots.length ∧ answerAt program i t = some a :=
  h.answers k a (mem_answers_of_answer? ha)

/-- A process that a slot keeps is as good as new. -/
theorem process_eq_fresh (h : IsSound program tasks p) {i : Nat} {process : Process}
    (hs : p.slots[i]? = some (.waiting (some process))) : process = .fresh :=
  (h.slots i _ hs).1

/-- **A job without an answer leaves a move to make**: some slot can take or finish a job. -/
theorem exists_move (h : IsSound program tasks p) (ht : ∀ t ∈ tasks, ∀ i, IsTidy program i t)
    {k : Nat} (hk : k < tasks.length) (hna : p.answer? k = none) :
    ∃ i, (p.take program i).isSome ∨ (p.finish program i).isSome := by
  cases hb : p.busyNumbers with
  | cons n ns =>
    -- Some slot is busy, and what it reads comes to an end.
    have hn : n ∈ p.busyNumbers := hb ▸ List.mem_cons_self ..
    obtain ⟨s, hs, hbusy⟩ := List.mem_filterMap.1 hn
    obtain ⟨i, hi⟩ := List.mem_iff_getElem?.1 hs
    cases s with
    | waiting process => cases hbusy
    | stopped => cases hbusy
    | busy job process =>
      obtain ⟨hj, hd⟩ := h.slots i _ hi
      obtain ⟨a, kept, hset, -⟩ := ht job.task (List.mem_of_getElem? hj) i process hd
      exact ⟨i, .inr (exists_finish h.notCancelled hi (by rw [hset]; rfl))⟩
  | nil =>
    -- No slot is busy, so the job is still in the queue.
    have hq : p.queue ≠ [] := by
      intro hq
      have hnum := h.numbers
      rw [hb, List.nil_append, handed, hq, List.length_nil, Nat.sub_zero, h.submitted] at hnum
      have hmem := hnum.mem_iff.2 (List.mem_range.2 hk)
      rw [← isSome_answer?_iff, hna] at hmem
      cases hmem
    obtain ⟨s, more, hp⟩ := List.exists_cons_of_length_pos h.size
    have h0 : p.slots[0]? = some s := by rw [hp, List.getElem?_cons_zero]
    cases s with
    | waiting process => exact ⟨0, .inl (exists_take program h.notCancelled h0 hq)⟩
    | stopped => exact (h.slots 0 _ h0).elim
    | busy job process =>
      have hn : job.number ∈ p.busyNumbers :=
        List.mem_filterMap.2 ⟨_, List.mem_of_getElem? h0, rfl⟩
      rw [hb] at hn
      cases hn

/-- **A single slot answers jobs in the order of their numbers.** -/
theorem answer?_isSome_of_lt (h : IsSound program tasks p) (hl : p.slots.length = 1) {j k : Nat}
    (hjk : j < k) (hk : (p.answer? k).isSome) : (p.answer? j).isSome := by
  rw [isSome_answer?_iff] at hk ⊢
  have hturn := h.inTurn hl
  -- The numbers of the answers come first in a range, so they are one themselves.
  have hpre : p.answers.map (·.1) = List.range p.answers.length := by
    have ht := congrArg (List.take (p.answers.map (·.1)).length) hturn
    rw [List.take_left, List.take_range, List.length_map] at ht
    rw [ht]
    have hlen := congrArg List.length hturn
    rw [List.length_append, List.length_map, List.length_range] at hlen
    rw [Nat.min_eq_left (by omega)]
  rw [hpre, List.mem_range] at hk ⊢
  omega

end IsSound

end SuitePool.Pool
