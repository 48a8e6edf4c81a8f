import Mathlib.Data.List.Basic
import Mathlib.Tactic.Common
import SuitePool.Proofs.Pool.Soundness

/-!
# The slots that jobs are handed to

A job is handed to one slot, which does it and answers it; no other slot has a part in it.  So where
tasks are tidy the answer of a job is what its task comes to at the slot that the job was handed to.

## Main definitions

* `Pool.IsTraced`: the invariant.
* `Pool.slotOf`: the slot that a job is handed to.

## Main results

* `Pool.isTraced_step`, `Pool.isTraced_run`: the invariant is kept.
* `Pool.answerAt_slotOf`: a job is answered as at its slot.
-/

namespace SuitePool.Pool

variable {program : WorkerProgram} {tasks : List Task} {handed : List (Nat × Nat)} {p q : Pool}

/-- **Are jobs done at the slots they were handed to?** -/
structure IsTraced (program : WorkerProgram) (tasks : List Task) (handed : List (Nat × Nat))
    (p : Pool) : Prop where
  /-- A slot is in the middle of a job that it was handed. -/
  busy : ∀ (i : Nat) (job : Job) (process : Process), p.slots[i]? = some (.busy job process) →
    (job.number, i) ∈ handed
  /-- An answer is what the task comes to at the slot that was handed the job. -/
  answers : ∀ (k : Nat) (a : Answer), (k, a) ∈ p.answers →
    ∃ t i, tasks[k]? = some t ∧ (k, i) ∈ handed ∧ answerAt program i t = some a

/-- A new pool has no jobs. -/
theorem isTraced_ofSize (program : WorkerProgram) (size : Nat) :
    IsTraced program [] [] (ofSize size) where
  busy := by
    intro i job process hs
    cases (List.mem_replicate.1 (List.mem_of_getElem? hs)).2
  answers := by
    intro k a h
    cases h

namespace IsTraced

/-- Slots stay traced when one of them waits. -/
theorem busy_set_waiting (h : IsTraced program tasks handed p) {i : Nat} {kept : Option Process}
    (j : Nat) (job : Job) (process : Process)
    (hj : (p.slots.set i (.waiting kept))[j]? = some (.busy job process)) :
    (job.number, j) ∈ handed := by
  rcases getElem?_set_cases hj with ⟨-, he⟩ | hj
  · cases he
  · exact h.busy j job process hj

/-- Answers stay traced when a job is answered as at its slot. -/
theorem answers_append (h : IsTraced program tasks handed p) {job : Job} {i : Nat}
    (ht : tasks[job.number]? = some job.task) (hi : (job.number, i) ∈ handed) {a : Answer}
    (ha : answerAt program i job.task = some a) (k : Nat) (b : Answer)
    (hk : (k, b) ∈ p.answers ++ [(job.number, a)]) :
    ∃ t i, tasks[k]? = some t ∧ (k, i) ∈ handed ∧ answerAt program i t = some b := by
  rcases List.mem_append.1 hk with hk | hk
  · exact h.answers k b hk
  · rw [List.mem_singleton, Prod.mk.injEq] at hk
    obtain ⟨rfl, rfl⟩ := hk
    exact ⟨job.task, i, ht, hi, ha⟩

/-- More may be handed out, and more tasks be given. -/
theorem append (h : IsTraced program tasks handed p) (ts : List Task) (more : List (Nat × Nat)) :
    IsTraced program (tasks ++ ts) (handed ++ more) p where
  busy i job process hs := List.mem_append_left _ (h.busy i job process hs)
  answers k a hk := by
    obtain ⟨t, i, ht, hi, ha⟩ := h.answers k a hk
    exact ⟨t, i, getElem?_append_of_some ht ts, List.mem_append_left _ hi, ha⟩

end IsTraced

/-- **A move keeps a pool traced** that is in order. -/
theorem isTraced_step (hsound : IsSound program tasks p) (h : IsTraced program tasks handed p)
    {m : Move} (hs : p.step program m = some q) :
    IsTraced program (tasks ++ (submittedTask? m).toList) (handed ++ (p.handout? m).toList) q := by
  have hmore := h.append (submittedTask? m).toList (p.handout? m).toList
  cases steps_of_step hs with
  | queued | cancelled => exact ⟨hmore.busy, hmore.answers⟩
  | refused hstop => rw [hsound.not_isStopped] at hstop; cases hstop
  | @taken i kept job rest process hc hw hq hd =>
    have hi : (job.number, i) ∈ handed ++ (p.handout? (.take i)).toList := by
      simp [handout?, hq]
    refine ⟨?_, hmore.answers⟩
    intro j job' process' hj
    -- The slot is handed the job it is in the middle of.
    rcases getElem?_set_cases hj with ⟨rfl, he⟩ | hj
    · cases he
      exact hi
    · exact hmore.busy j job' process' hj
  | @unsent i kept job rest e hc hw hq hd =>
    have hi : (job.number, i) ∈ handed ++ (p.handout? (.take i)).toList := by
      simp [handout?, hq]
    obtain ⟨hn, ht⟩ := hsound.number_eq hq
    rw [hsound.dispatch_eq hw] at hd
    refine ⟨hmore.busy_set_waiting, hmore.answers_append ?_ hi (by simp only [answerAt, hd])⟩
    rw [show (submittedTask? (.take i)).toList = [] from rfl, List.append_nil, hn]
    exact ht
  | @finished i job process a kept notices hc hw hr =>
    obtain ⟨hj, hd⟩ := hsound.slots i _ hw
    refine ⟨hmore.busy_set_waiting, hmore.answers_append ?_ (hmore.busy i job process hw) ?_⟩
    · rw [show (submittedTask? (.finish i)).toList = [] from rfl, List.append_nil]
      exact hj
    · simp only [answerAt, hd, hr, Option.map_some]
  | abandoned hc | stopped hc | dropped hc => rw [hsound.notCancelled] at hc; cases hc

theorem isTraced_run_of_isTraced {moves : List Move} (hsound : IsSound program tasks p)
    (h : IsTraced program tasks handed p)
    (ht : ∀ t ∈ tasks ++ submittedTasks moves, ∀ i, IsTidy program i t) (hm : .cancel ∉ moves)
    (hr : p.run program moves = some q) :
    IsTraced program (tasks ++ submittedTasks moves) (handed ++ handouts program p moves) q := by
  induction moves generalizing p tasks handed with
  | nil =>
    cases hr
    simpa [submittedTasks, handouts] using h
  | cons m moves ih =>
    rw [List.mem_cons, not_or] at hm
    obtain ⟨p', hs, hr⟩ := run_cons hr
    -- What the first move submits and hands out counts for the others.
    rw [submittedTasks_cons, ← List.append_assoc] at ht ⊢
    have hsound' := isSound_step hsound (fun t hmem => ht t
      (List.mem_append_left _ (List.mem_append_left _ hmem))) (Ne.symm hm.1) hs
    have hlater := ih hsound' (isTraced_step hsound h hs) ht hm.2 hr
    rw [List.append_assoc handed] at hlater
    rw [handouts, hs]
    exact hlater

/-- **Jobs are done at the slots they were handed to**, whatever the order of moves. -/
theorem isTraced_run {size : Nat} {moves : List Move} (hm : .cancel ∉ moves)
    (ht : ∀ t ∈ submittedTasks moves, ∀ i, IsTidy program i t)
    (hr : (ofSize size).run program moves = some p) :
    IsTraced program (submittedTasks moves) (handouts program (ofSize size) moves) p :=
  isTraced_run_of_isTraced (isSound_ofSize program size) (isTraced_ofSize program size) ht hm hr

/-! ## The slot of a job -/

/-- **The slot that a job is handed to** in the course of moves.  Jobs are handed out in the order
of their numbers. -/
def slotOf (program : WorkerProgram) (size : Nat) (moves : List Move) (k : Nat) : Nat :=
  ((handouts program (ofSize size) moves)[k]?.map (·.2)).getD 0

/-- **A job is answered with what its task comes to at its slot.** -/
theorem answerAt_slotOf {size : Nat} {moves : List Move} (hm : .cancel ∉ moves)
    (ht : ∀ t ∈ submittedTasks moves, ∀ i, IsTidy program i t)
    (hr : (ofSize size).run program moves = some p) {k : Nat} {a : Answer}
    (ha : p.answer? k = some a) :
    ∃ t, (submittedTasks moves)[k]? = some t ∧
      answerAt program (slotOf program size moves k) t = some a := by
  obtain ⟨t, i, htask, hi, hat⟩ := (isTraced_run hm ht hr).answers k a (mem_answers_of_answer? ha)
  obtain ⟨n, hn⟩ := List.mem_iff_getElem?.1 hi
  -- The jobs are handed out in order, so this one stands at the place of its number.
  have hrange := congrArg (·[n]?) (handouts_eq_range hm ht hr)
  simp only [List.getElem?_map, hn, Option.map_some] at hrange
  obtain ⟨hlt, hk⟩ := List.getElem?_eq_some_iff.1 hrange.symm
  rw [List.getElem_range] at hk
  subst hk
  refine ⟨t, htask, ?_⟩
  rw [slotOf, hn]
  exact hat

end SuitePool.Pool
