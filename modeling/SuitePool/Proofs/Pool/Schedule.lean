import Mathlib.Data.List.Basic
import Mathlib.Tactic.Common
import SuitePool.Pool.Schedule
import SuitePool.Proofs.Pool.Calls

/-!
# The schedule in turns

The crew of a pool makes the moves of its slots: waiting slots take jobs in turns, and the slot that
has been busy for the longest time finishes first.  If tasks are tidy the crew never gets stuck, so
a call comes to its outcome, and as every job that is finished leaves one less without an answer,
the fuel of a call is always enough.

## Main definitions

* `Crew.IsSound`: the invariant.
* `Crew.inHand`: the number of jobs without an answer.
* `Pool.Reaches`: what a pool comes to by moves.

## Main results

* `Crew.isSound_takeJobs`, `Crew.isSound_finishJob`: the invariant is kept.
* `Crew.outcome?_settle`: moves until a call is settled do settle it.
* `Crew.outcome?_call`: a call comes to its outcome.
* `Crew.reaches_call`: all that a crew does are moves of its pool.
-/

namespace SuitePool

open Pool

namespace Crew

variable {program : WorkerProgram} {tasks : List Task} {size : Nat} {c c' : Crew}

/-! ## The invariant -/

/-- **Is a crew in order**, that was given these tasks, with this number of slots? -/
structure IsSound (program : WorkerProgram) (tasks : List Task) (size : Nat) (c : Crew) :
    Prop where
  /-- Its pool is. -/
  pool : c.pool.IsSound program tasks
  /-- It has that many slots. -/
  length_slots : c.pool.slots.length = size
  /-- Slots that have their turn are not busy. -/
  turns : ∀ i ∈ c.turns, isBusy c.pool i = false
  /-- The others are. -/
  busy : ∀ i ∈ c.busy, isBusy c.pool i = true
  /-- Each slot is one of them, once. -/
  slots : (c.turns ++ c.busy).Perm (List.range size)

/-- The number of jobs without an answer. -/
def inHand (c : Crew) : Nat := c.pool.queue.length + c.busy.length

/-- A new crew is in order. -/
theorem isSound_ofSize (program : WorkerProgram) (size : Nat) :
    (ofSize size).IsSound program [] (max 1 size) where
  pool := Pool.isSound_ofSize program size
  length_slots := length_slots_ofSize size
  turns := by
    intro i _
    show isBusy (Pool.ofSize size) i = false
    unfold isBusy
    cases hs : (Pool.ofSize size).slots[i]? with
    | none => rfl
    | some s => rw [(List.mem_replicate.1 (List.mem_of_getElem? hs)).2]
  busy := by
    intro i hi
    cases hi
  slots := by
    rw [ofSize, List.append_nil, Pool.size, length_slots_ofSize]

theorem isBusy_of_set_ne {p q : Pool} {i j : Nat} {s : Slot} (hq : q.slots = p.slots.set i s)
    (hij : i ≠ j) : isBusy q j = isBusy p j := by
  rw [isBusy, isBusy, hq, List.getElem?_set_ne hij]

namespace IsSound

/-- A crew stays in order when one slot changes and is filed anew. -/
theorem of_set (h : c.IsSound program tasks size) (hp : c'.pool.IsSound program tasks) {i : Nat}
    {s : Slot} (hs : c'.pool.slots = c.pool.slots.set i s)
    (hperm : (c'.turns ++ c'.busy).Perm (c.turns ++ c.busy))
    (ht : ∀ j ∈ c'.turns, (j ∈ c.turns ∧ i ≠ j) ∨ (j = i ∧ isBusy c'.pool i = false))
    (hb : ∀ j ∈ c'.busy, (j ∈ c.busy ∧ i ≠ j) ∨ (j = i ∧ isBusy c'.pool i = true)) :
    c'.IsSound program tasks size where
  pool := hp
  turns := by
    intro j hj
    rcases ht j hj with ⟨hj, hij⟩ | ⟨rfl, hj⟩
    · rw [isBusy_of_set_ne hs hij]
      exact h.turns j hj
    · exact hj
  busy := by
    intro j hj
    rcases hb j hj with ⟨hj, hij⟩ | ⟨rfl, hj⟩
    · rw [isBusy_of_set_ne hs hij]
      exact h.busy j hj
    · exact hj
  length_slots := by
    rw [hs, List.length_set]
    exact h.length_slots
  slots := hperm.trans h.slots

/-- No slot is filed twice. -/
theorem nodup (h : c.IsSound program tasks size) : (c.turns ++ c.busy).Nodup :=
  h.slots.nodup_iff.2 List.nodup_range

theorem lt_length (h : c.IsSound program tasks size) {i : Nat} (hi : i ∈ c.turns ++ c.busy) :
    i < c.pool.slots.length :=
  h.length_slots ▸ List.mem_range.1 (h.slots.mem_iff.1 hi)

/-- A slot that has its turn waits. -/
theorem exists_waiting (h : c.IsSound program tasks size) {i : Nat} (hi : i ∈ c.turns) :
    ∃ process, c.pool.slots[i]? = some (.waiting process) := by
  have hlt := h.lt_length (List.mem_append_left _ hi)
  have hturn := h.turns i hi
  have hs := h.pool.slots i _ (List.getElem?_eq_getElem hlt)
  rw [isBusy, List.getElem?_eq_getElem hlt] at hturn
  rw [List.getElem?_eq_getElem hlt]
  cases hslot : c.pool.slots[i] with
  | waiting process => exact ⟨process, rfl⟩
  | busy job process =>
    rw [hslot] at hturn
    cases hturn
  | stopped =>
    rw [hslot] at hs
    exact hs.elim

theorem exists_busy (h : c.IsSound program tasks size) {i : Nat} (hi : i ∈ c.busy) :
    ∃ job process, c.pool.slots[i]? = some (.busy job process) := by
  have hbusy := h.busy i hi
  unfold isBusy at hbusy
  split at hbusy
  · next job process hs => exact ⟨job, process, hs⟩
  · cases hbusy

end IsSound

/-! ## Taking and finishing in turns -/

/-- What taking a job changes: one slot, and the queue. -/
theorem exists_slots_of_take {p q : Pool} {i : Nat} (h : p.take program i = some q) :
    (∃ s, q.slots = p.slots.set i s) ∧ p.queue.length = q.queue.length + 1 := by
  obtain ⟨-, process, job, rest, -, hq, ⟨sent, -, rfl⟩ | ⟨e, -, rfl⟩⟩ := take_eq_some h <;>
    exact ⟨⟨_, rfl⟩, by rw [hq, List.length_cons]⟩

/-- A slot that took a job and is busy with it waits for its end. -/
theorem isSound_of_take_of_busy (h : c.IsSound program tasks size) {i : Nat} {more : List Nat}
    (ht : c.turns = i :: more) {pool : Pool} (hp : c.pool.take program i = some pool)
    (hb : isBusy pool i = true) :
    (⟨pool, more, c.busy ++ [i]⟩ : Crew).IsSound program tasks size := by
  obtain ⟨⟨s, hs⟩, -⟩ := exists_slots_of_take hp
  -- The slot was filed once, so none of the others is the one that changed.
  have hnodup := h.nodup
  rw [ht, List.cons_append, List.nodup_cons, List.mem_append, not_or] at hnodup
  refine h.of_set (Pool.isSound_take h.pool hp) hs ?_ ?_ ?_
  · rw [ht, ← List.append_assoc]
    exact List.perm_append_singleton ..
  · intro j hj
    refine .inl ⟨ht ▸ List.mem_cons_of_mem _ hj, ?_⟩
    rintro rfl
    exact hnodup.1.1 hj
  · intro j hj
    rcases List.mem_append.1 hj with hj | hj
    · refine .inl ⟨hj, ?_⟩
      rintro rfl
      exact hnodup.1.2 hj
    · exact .inr ⟨List.mem_singleton.1 hj, hb⟩

/-- A slot that took a job it cannot do waits for its next turn. -/
theorem isSound_of_take_of_not_busy (h : c.IsSound program tasks size) {i : Nat} {more : List Nat}
    (ht : c.turns = i :: more) {pool : Pool} (hp : c.pool.take program i = some pool)
    (hb : isBusy pool i = false) :
    (⟨pool, more ++ [i], c.busy⟩ : Crew).IsSound program tasks size := by
  obtain ⟨⟨s, hs⟩, -⟩ := exists_slots_of_take hp
  have hnodup := h.nodup
  rw [ht, List.cons_append, List.nodup_cons, List.mem_append, not_or] at hnodup
  refine h.of_set (Pool.isSound_take h.pool hp) hs ?_ ?_ ?_
  · rw [ht]
    exact (List.perm_append_singleton ..).append_right _
  · intro j hj
    rcases List.mem_append.1 hj with hj | hj
    · refine .inl ⟨ht ▸ List.mem_cons_of_mem _ hj, ?_⟩
      rintro rfl
      exact hnodup.1.1 hj
    · exact .inr ⟨List.mem_singleton.1 hj, hb⟩
  · intro j hj
    refine .inl ⟨hj, ?_⟩
    rintro rfl
    exact hnodup.1.2 hj

/-- A round of taking jobs: nobody can take one, or the next slot in turn does. -/
theorem takeJobs_succ (h : c.IsSound program tasks size) (fuel : Nat) :
    (c.takeJobs program (fuel + 1) = c ∧ (c.turns = [] ∨ c.pool.queue = [])) ∨
      ∃ c' : Crew, c.takeJobs program (fuel + 1) = c'.takeJobs program fuel ∧
        c'.IsSound program tasks size ∧ c'.inHand ≤ c.inHand ∧
        c.pool.queue.length = c'.pool.queue.length + 1 := by
  cases ht : c.turns with
  | nil => exact .inl ⟨by simp only [takeJobs, ht], .inl rfl⟩
  | cons i more =>
    cases hp : c.pool.take program i with
    | none =>
      refine .inl ⟨by simp only [takeJobs, ht, hp], .inr ?_⟩
      -- The slot waits, so only a job is missing.
      obtain ⟨process, hs⟩ := h.exists_waiting (ht ▸ List.mem_cons_self ..)
      by_contra hq
      have htake := exists_take program h.pool.notCancelled hs hq
      rw [hp] at htake
      cases htake
    | some pool =>
      have hq := (exists_slots_of_take hp).2
      cases hb : isBusy pool i with
      | true =>
        refine .inr ⟨_, by simp only [takeJobs, ht, hp, hb, if_true],
          isSound_of_take_of_busy h ht hp hb, ?_, hq⟩
        simp only [inHand, List.length_append, List.length_singleton]
        omega
      | false =>
        refine .inr ⟨_, by simp only [takeJobs, ht, hp, hb, Bool.false_eq_true, if_false],
          isSound_of_take_of_not_busy h ht hp hb, ?_, hq⟩
        simp only [inHand]
        omega

/-- **Taking jobs in turns** keeps a crew in order, and goes on until no slot waits or no job
does. -/
theorem isSound_takeJobs (h : c.IsSound program tasks size) {fuel : Nat}
    (hfuel : c.pool.queue.length ≤ fuel) :
    (c.takeJobs program fuel).IsSound program tasks size ∧
      (c.takeJobs program fuel).inHand ≤ c.inHand ∧
      ((c.takeJobs program fuel).turns = [] ∨ (c.takeJobs program fuel).pool.queue = []) := by
  -- Each round takes a job off the queue, so fuel for all jobs of the queue is enough.
  induction fuel generalizing c with
  | zero => exact ⟨h, le_rfl, .inr (List.length_eq_zero_iff.1 (Nat.le_zero.1 hfuel))⟩
  | succ fuel ih =>
    rcases takeJobs_succ h fuel with ⟨he, hend⟩ | ⟨c', he, hc', hl, hq⟩
    · rw [he]
      exact ⟨h, le_rfl, hend⟩
    · obtain ⟨hs, hle, hend⟩ := ih hc' (by omega)
      rw [he]
      exact ⟨hs, hle.trans hl, hend⟩

/-- **The slot that has been busy for the longest time finishes**, if one is busy. -/
theorem isSound_finishJob (h : c.IsSound program tasks size)
    (htidy : ∀ t ∈ tasks, ∀ i, IsTidy program i t) (hb : c.busy ≠ []) :
    ∃ c', c.finishJob program = some c' ∧ c'.IsSound program tasks size ∧ c'.inHand < c.inHand := by
  obtain ⟨i, more, hb⟩ := List.exists_cons_of_ne_nil hb
  obtain ⟨job, process, hs⟩ := h.exists_busy (hb ▸ List.mem_cons_self ..)
  -- The process was as good as new when it was sent the job, so it can be read to an end.
  obtain ⟨hj, hd⟩ := h.pool.slots i _ hs
  obtain ⟨a, kept, hset, -⟩ := htidy job.task (List.mem_of_getElem? hj) i process hd
  obtain ⟨pool, hp⟩ := Option.isSome_iff_exists.1
    (exists_finish h.pool.notCancelled hs (by rw [hset]; rfl))
  obtain ⟨-, job', process', a', kept', notices, -, -, he⟩ := finish_eq_some hp
  have hslots : pool.slots = c.pool.slots.set i (.waiting kept') := congrArg Pool.slots he
  have hi : i < c.pool.slots.length := (List.getElem?_eq_some_iff.1 hs).1
  have hnodup := h.nodup
  rw [hb, List.nodup_append] at hnodup
  obtain ⟨-, hbusy, hdisjoint⟩ := hnodup
  rw [List.nodup_cons] at hbusy
  refine ⟨⟨pool, c.turns ++ [i], more⟩, by simp only [finishJob, hb, hp, Option.map_some], ?_, ?_⟩
  · refine h.of_set (Pool.isSound_finish h.pool htidy hp) hslots ?_ ?_ ?_
    · rw [hb, List.append_assoc, List.singleton_append]
    · intro j hj
      rcases List.mem_append.1 hj with hj | hj
      · exact .inl ⟨hj, (hdisjoint j hj i (List.mem_cons_self ..)).symm⟩
      · refine .inr ⟨List.mem_singleton.1 hj, ?_⟩
        rw [isBusy, hslots, List.getElem?_set_self hi]
    · intro j hj
      refine .inl ⟨hb ▸ List.mem_cons_of_mem _ hj, ?_⟩
      rintro rfl
      exact hbusy.1 hj
  · rw [inHand, inHand, hb, List.length_cons, he]
    exact Nat.lt_succ_self _

/-! ## Calls -/

/-- **While a job has no answer a slot is busy**, once jobs are taken. -/
theorem IsSound.busy_ne_nil (h : c.IsSound program tasks size)
    (htidy : ∀ t ∈ tasks, ∀ i, IsTidy program i t) (hend : c.turns = [] ∨ c.pool.queue = [])
    {k : Nat} (hk : k < tasks.length) (ha : c.pool.answer? k = none) : c.busy ≠ [] := by
  intro hb
  have hslots := h.slots
  rw [hb, List.append_nil, ← h.length_slots] at hslots
  -- The pool leaves a move to make, but no slot is there to take a job or to finish one.
  obtain ⟨i, hi | hi⟩ := h.pool.exists_move htidy hk ha
  · obtain ⟨q, hq⟩ := Option.isSome_iff_exists.1 hi
    obtain ⟨-, process, job, rest, -, hqueue, -⟩ := take_eq_some hq
    rcases hend with hturns | hempty
    · have hlen := hslots.length_eq
      rw [hturns, List.length_nil, List.length_range] at hlen
      exact absurd hlen h.pool.size.ne
    · rw [hqueue] at hempty
      cases hempty
  · obtain ⟨q, hq⟩ := Option.isSome_iff_exists.1 hi
    obtain ⟨-, job, process, -, -, -, hs, -⟩ := finish_eq_some hq
    have hlt := (List.getElem?_eq_some_iff.1 hs).1
    have hturn := h.turns i (hslots.mem_iff.2 (List.mem_range.2 hlt))
    rw [isBusy, hs] at hturn
    cases hturn

variable {α : Type} {read : Json → Except String α}

/-- **Moves until a call is settled do settle it.** -/
theorem outcome?_settle (h : c.IsSound program tasks size)
    (htidy : ∀ t ∈ tasks, ∀ i, IsTidy program i t) {ts : List Task} {numbers : List Nat}
    (hc : IsCall tasks ts numbers) {fuel : Nat} (hfuel : c.inHand < fuel) :
    (c.settle program read numbers fuel).1.IsSound program tasks size ∧
      outcome? read (c.settle program read numbers fuel).1.pool numbers =
        some (c.settle program read numbers fuel).2 := by
  -- Each round finishes a job, so the jobs in hand bound the number of rounds.
  induction fuel generalizing c with
  | zero => exact absurd hfuel (Nat.not_lt_zero _)
  | succ fuel ih =>
    obtain ⟨hs, hle, hend⟩ := isSound_takeJobs h le_rfl
    rw [settle]
    cases ho : outcome? read (c.takeJobs program c.pool.queue.length).pool numbers with
    | some outcome => exact ⟨hs, ho⟩
    | none =>
      obtain ⟨k, hk, ha⟩ := exists_unanswered ho
      obtain ⟨c', hf, hs', hlt⟩ :=
        isSound_finishJob hs htidy (hs.busy_ne_nil htidy hend (hc.lt_length hk) ha)
      simp only [hf]
      exact ih hs' (by omega)

/-- A crew that is given a task stays in order. -/
theorem isSound_submit (h : c.IsSound program tasks size) (t : Task) :
    ({ c with pool := c.pool.submit t } : Crew).IsSound program (tasks ++ [t]) size := by
  have hs : (c.pool.submit t).slots = c.pool.slots := by
    unfold Pool.submit
    split_ifs <;> rfl
  have hbusy (i : Nat) : isBusy (c.pool.submit t) i = isBusy c.pool i := by
    rw [isBusy, isBusy, hs]
  exact {
    pool := Pool.isSound_submit h.pool t
    length_slots := hs ▸ h.length_slots
    turns := fun i hi => (hbusy i).trans (h.turns i hi)
    busy := fun i hi => (hbusy i).trans (h.busy i hi)
    slots := h.slots }

theorem isSound_foldl_submit (h : c.IsSound program tasks size) (ts : List Task) :
    ({ c with pool := ts.foldl Pool.submit c.pool } : Crew).IsSound program (tasks ++ ts)
      size := by
  induction ts generalizing c tasks with
  | nil => simpa using h
  | cons t ts ih =>
    rw [← List.singleton_append, ← List.append_assoc]
    exact ih (isSound_submit h t)

/-- The numbers of tasks that are submitted one after another, behind some others. -/
def callNumbers (before : Nat) (ts : List Task) : List Nat :=
  (List.range ts.length).map (before + ·)

/-- Tasks that are submitted one after another are a call. -/
theorem isCall_range (before ts : List Task) :
    IsCall (before ++ ts) ts (callNumbers before.length ts) where
  increasing := by
    refine List.Pairwise.map _ ?_ List.pairwise_lt_range
    intro j k hjk
    exact Nat.add_lt_add_left hjk _
  tasks := by
    induction ts generalizing before with
    | nil => exact .nil
    | cons t ts ih =>
      have htail := ih (before ++ [t])
      rw [List.append_assoc, List.singleton_append, List.length_append,
        List.length_singleton] at htail
      rw [callNumbers, List.length_cons, List.range_succ_eq_map, List.map_cons, List.map_map]
      refine .cons (by simp) ?_
      -- The numbers behind the first one are those of a call with one more task before it.
      have hshift : (before.length + ·) ∘ Nat.succ = (before.length + 1 + ·) := by
        funext k
        simp only [Function.comp_apply, Nat.succ_eq_add_one]
        omega
      rwa [hshift]

variable (read) in
/-- **A call comes to its outcome**, and leaves the crew in order. -/
theorem outcome?_call (h : c.IsSound program tasks size) {ts : List Task}
    (htidy : ∀ t ∈ tasks ++ ts, ∀ i, IsTidy program i t) :
    (c.call program read ts).1.IsSound program (tasks ++ ts) size ∧
      outcome? read (c.call program read ts).1.pool (callNumbers tasks.length ts) =
        some (c.call program read ts).2 := by
  -- The tasks are numbered from the number of those submitted before.
  have hc := isCall_range tasks ts
  have hs := isSound_foldl_submit h ts
  rw [← h.pool.submitted] at hc ⊢
  exact outcome?_settle hs htidy hc (Nat.lt_succ_self _)

end Crew

/-! ## The moves of a crew -/

/-- **Does a pool come to another one** by moves that submit these tasks and do not shut it down? -/
def Pool.Reaches (program : WorkerProgram) (p : Pool) (ts : List Task) (q : Pool) : Prop :=
  ∃ moves, .cancel ∉ moves ∧ submittedTasks moves = ts ∧ p.run program moves = some q

namespace Pool.Reaches

variable {program : WorkerProgram} {p q r : Pool}

theorem refl (program : WorkerProgram) (p : Pool) : p.Reaches program [] p :=
  ⟨[], List.not_mem_nil, rfl, rfl⟩

theorem of_step {m : Move} (hm : m ≠ .cancel) (h : p.step program m = some q) :
    p.Reaches program (submittedTask? m).toList q := by
  refine ⟨[m], by simpa using Ne.symm hm, ?_, run_single.2 h⟩
  rw [submittedTasks_cons]
  exact List.append_nil _

theorem trans {ts us : List Task} (h : p.Reaches program ts q) (h' : q.Reaches program us r) :
    p.Reaches program (ts ++ us) r := by
  obtain ⟨moves, hm, rfl, hr⟩ := h
  obtain ⟨moves', hm', rfl, hr'⟩ := h'
  exact ⟨moves ++ moves', by simp [hm, hm'], List.filterMap_append, run_append.2 ⟨q, hr, hr'⟩⟩

end Pool.Reaches

namespace Crew

variable {program : WorkerProgram} {c c' : Crew}

theorem reaches_takeJobs (c : Crew) (fuel : Nat) :
    c.pool.Reaches program [] (c.takeJobs program fuel).pool := by
  induction fuel generalizing c with
  | zero => exact .refl program _
  | succ fuel ih =>
    rw [takeJobs]
    cases c.turns with
    | nil => exact .refl program _
    | cons i more =>
      dsimp only
      cases hp : c.pool.take program i with
      | none => exact .refl program _
      | some pool =>
        have htake : c.pool.Reaches program [] pool := .of_step (m := .take i) (by simp) hp
        -- The slot is filed as busy, or for its next turn.
        dsimp only
        split_ifs
        · exact htake.trans (ih ⟨pool, more, c.busy ++ [i]⟩)
        · exact htake.trans (ih ⟨pool, more ++ [i], c.busy⟩)

theorem reaches_finishJob (h : c.finishJob program = some c') :
    c.pool.Reaches program [] c'.pool := by
  unfold finishJob at h
  split at h
  · cases h
  · next i more hb =>
    obtain ⟨pool, hp, rfl⟩ := Option.map_eq_some_iff.1 h
    exact .of_step (m := .finish i) (by simp) hp

theorem reaches_settle {α : Type} (read : Json → Except String α) (numbers : List Nat) (c : Crew)
    (fuel : Nat) : c.pool.Reaches program [] (c.settle program read numbers fuel).1.pool := by
  induction fuel generalizing c with
  | zero => exact .refl program _
  | succ fuel ih =>
    have htake : c.pool.Reaches program [] (c.takeJobs program c.pool.queue.length).pool :=
      c.reaches_takeJobs _
    rw [settle]
    split
    · exact htake
    · split
      · exact htake
      · next c' hf => exact (htake.trans (reaches_finishJob hf)).trans (ih c')

theorem reaches_submitAll (c : Crew) (ts : List Task) :
    c.pool.Reaches program ts (c.submitAll ts).1.pool := by
  rw [submitAll]
  generalize c.pool = p
  induction ts generalizing p with
  | nil => exact .refl program p
  | cons t ts ih =>
    have hsubmit : p.Reaches program [t] (p.submit t) := .of_step (m := .submit t) (by simp) rfl
    exact hsubmit.trans (ih (p.submit t))

variable (program) in
/-- **All that a crew does in a call are moves of its pool.** -/
theorem reaches_call {α : Type} (read : Json → Except String α) (c : Crew) (ts : List Task) :
    c.pool.Reaches program ts (c.call program read ts).1.pool := by
  have hsubmit : c.pool.Reaches program ts (c.submitAll ts).1.pool := c.reaches_submitAll ts
  have hcall := hsubmit.trans (reaches_settle read (c.submitAll ts).2 (c.submitAll ts).1
    ((c.submitAll ts).1.pool.queue.length + (c.submitAll ts).1.busy.length + 1))
  rwa [List.append_nil] at hcall

end Crew

end SuitePool
