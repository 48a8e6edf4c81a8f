import Mathlib.Data.List.Basic
import Mathlib.Tactic.Common
import SuitePool.Proofs.Pool.Shutdown

/-!
# Jobs that wait

A job waits in the queue until a slot takes it or the pool is shut down, and a job that has left the
queue does not come back.  So the jobs that are handed out from some point on are those that wait at
that point, and new ones.  While the pool is not shut down and every process can be read to an end,
a waiting job leaves a move to make; as there are only so many moves, it is handed out at last,
whether or not anybody still wants its answer.

## Main definitions

* `Pool.waitingNumbers`: the jobs that wait.
* `Pool.IsResponsive`: a program whose processes can be read to an end.

## Main results

* `Pool.mem_waitingNumbers_of_mem_handouts`: no other jobs are handed out.
* `Pool.mem_handouts_or_waitingNumbers`: a waiting job is handed out or waits on.
* `Pool.exists_move_of_waiting`: a waiting job leaves a move to make.
* `Pool.exists_handout`: some moves hand it out.
* `Pool.isResponsive_ownProgram`: workers that serve a site are read to an end.
-/

namespace SuitePool.Pool

open Text

variable {program : WorkerProgram} {p q : Pool}

/-- **The numbers of the jobs that wait.** -/
def waitingNumbers (p : Pool) : List Nat := p.queue.map (·.number)

/-! ## One move -/

/-- Only a waiting job is handed out. -/
theorem mem_waitingNumbers_of_handout? {m : Move} {k i : Nat} (h : p.handout? m = some (k, i)) :
    k ∈ p.waitingNumbers := by
  cases m with
  | take j =>
    obtain ⟨job, hjob, he⟩ := Option.map_eq_some_iff.1 h
    cases he
    exact List.mem_map.2 ⟨job, List.mem_of_mem_head? hjob, rfl⟩
  | submit | cancel | finish | abandon | stop => cases h

/-- **A job that waits after a move waited before**, or is new. -/
theorem mem_waitingNumbers_of_step {m : Move} (h : p.step program m = some q) {k : Nat}
    (hk : k ∈ q.waitingNumbers) : k ∈ p.waitingNumbers ∨ k = p.submitted := by
  cases steps_of_step h with
  | queued hs =>
    rw [waitingNumbers, List.map_append, List.mem_append] at hk
    exact hk.imp id List.mem_singleton.1
  | refused | cancelled | finished | abandoned | stopped => exact .inl hk
  | taken hc hs hq | unsent hc hs hq =>
    rw [waitingNumbers, hq]
    exact .inl (List.mem_cons_of_mem _ hk)
  | dropped => cases hk

/-- **A waiting job is handed out by a move or waits on**, unless the pool is shut down. -/
theorem handout?_or_mem_waitingNumbers {m : Move} (h : p.step program m = some q)
    (hc : q.cancelled = false) {k : Nat} (hk : k ∈ p.waitingNumbers) :
    (∃ i, p.handout? m = some (k, i)) ∨ k ∈ q.waitingNumbers := by
  cases steps_of_step h with
  | queued hs =>
    rw [waitingNumbers, List.map_append, List.mem_append]
    exact .inr (.inl hk)
  | refused | cancelled | finished | abandoned | stopped => exact .inr hk
  | @taken i _ job rest _ _ _ hq | @unsent i _ job rest _ _ _ hq =>
    -- The first job is handed out, and the others wait on.
    rw [waitingNumbers, hq, List.map_cons, List.mem_cons] at hk
    rcases hk with rfl | hk
    · exact .inl ⟨i, by rw [handout?, hq]; rfl⟩
    · exact .inr hk
  | dropped hshut => exact absurd (hc.symm.trans hshut) Bool.false_ne_true

/-- Numbers are given in increasing order. -/
theorem submitted_step {m : Move} (h : p.step program m = some q) : p.submitted ≤ q.submitted := by
  cases steps_of_step h with
  | queued | refused => exact Nat.le_succ _
  | cancelled | taken | unsent | finished | abandoned | stopped | dropped => exact Nat.le_refl _

/-- A slot stops only when the pool is shut down. -/
theorem isStopped_step {m : Move} (h : p.step program m = some q)
    (hp : p.cancelled = false → ∀ s ∈ p.slots, s.isStopped = false) (hc : q.cancelled = false) :
    ∀ s ∈ q.slots, s.isStopped = false := by
  -- A slot after the move was there before, or is the one that the move puts there.
  have hset {i : Nat} {s' : Slot} (hc : p.cancelled = false) (hs' : s'.isStopped = false) :
      ∀ s ∈ p.slots.set i s', s.isStopped = false := by
    intro s hs
    rcases List.mem_or_eq_of_mem_set hs with hs | rfl
    · exact hp hc s hs
    · exact hs'
  cases steps_of_step h with
  | queued | refused => exact hp hc
  | cancelled => cases hc
  | taken | unsent | finished => exact hset hc rfl
  | abandoned hshut | stopped hshut | dropped hshut =>
    exact absurd (hc.symm.trans hshut) Bool.false_ne_true

/-! ## Many moves -/

/-- A pool that is not shut down was not shut down before. -/
theorem notCancelled_of_run {moves : List Move} (h : p.run program moves = some q)
    (hq : q.cancelled = false) : p.cancelled = false := by
  by_contra hp
  have hw := (windsDown_run ((Bool.eq_false_or_eq_true p.cancelled).resolve_right hp) h).2
  exact absurd (hq.symm.trans hw.cancelled) Bool.false_ne_true

/-- **Only waiting jobs and new ones are handed out.** -/
theorem mem_waitingNumbers_of_mem_handouts {moves : List Move} (h : p.run program moves = some q)
    {k i : Nat} (hk : (k, i) ∈ handouts program p moves) :
    k ∈ p.waitingNumbers ∨ p.submitted ≤ k := by
  induction moves generalizing p with
  | nil => cases hk
  | cons m moves ih =>
    obtain ⟨p', hs, h⟩ := run_cons h
    rw [handouts, hs] at hk
    rcases List.mem_append.1 hk with hk | hk
    · exact .inl (mem_waitingNumbers_of_handout? (Option.mem_toList.1 hk))
    · rcases ih h hk with hk | hk
      · exact (mem_waitingNumbers_of_step hs hk).imp id Eq.ge
      · exact .inr (Nat.le_trans (submitted_step hs) hk)

/-- **A waiting job is handed out or waits on**, unless the pool is shut down. -/
theorem mem_handouts_or_waitingNumbers {moves : List Move} (h : p.run program moves = some q)
    (hc : q.cancelled = false) {k : Nat} (hk : k ∈ p.waitingNumbers) :
    (∃ i, (k, i) ∈ handouts program p moves) ∨ k ∈ q.waitingNumbers := by
  induction moves generalizing p with
  | nil =>
    cases h
    exact .inr hk
  | cons m moves ih =>
    obtain ⟨p', hs, h⟩ := run_cons h
    rw [handouts, hs]
    rcases handout?_or_mem_waitingNumbers hs (notCancelled_of_run h hc) hk with ⟨i, hi⟩ | hk
    · exact .inl ⟨i, List.mem_append_left _ (Option.mem_toList.2 hi)⟩
    · rcases ih h hk with ⟨i, hi⟩ | hw
      · exact .inl ⟨i, List.mem_append_right _ hi⟩
      · exact .inr hw

/-- A pool that was shut down hands out nothing. -/
theorem handouts_of_cancelled {moves : List Move} (hc : p.cancelled = true)
    (h : p.run program moves = some q) : handouts program p moves = [] := by
  induction moves generalizing p with
  | nil => rfl
  | cons m moves ih =>
    obtain ⟨p', hs, h⟩ := run_cons h
    obtain ⟨hm, hw⟩ := windsDown_step hc hs
    have hnone : p.handout? m = none := by
      cases m with
      | take i => exact absurd rfl (hm i).1
      | submit | cancel | finish | abandon | stop => rfl
    rw [handouts, hs, hnone]
    exact ih hw.cancelled h

/-- **No slot has stopped** while the pool is not shut down. -/
theorem isStopped_run {size : Nat} {moves : List Move}
    (hr : (ofSize size).run program moves = some p) (hc : p.cancelled = false) :
    ∀ s ∈ p.slots, s.isStopped = false := by
  induction moves using List.reverseRecOn generalizing p with
  | nil =>
    cases hr
    intro s hs
    rw [(List.mem_replicate.1 hs).2]
    rfl
  | append_singleton moves m ih =>
    obtain ⟨p', hr', hs⟩ := run_append.1 hr
    exact isStopped_step (run_single.1 hs) (ih hr') hc

/-! ## Processes that can be read to an end -/

/-- **Can a process be read to an end** whenever it was sent a task, whatever it had left unread? -/
def IsResponsive (program : WorkerProgram) : Prop :=
  ∀ (i : Nat) (kept : Option Process) (t : Task) (sent : Process),
    dispatch program i kept t = .ok sent → (settle program i sent).isSome

theorem settle_isSome {i : Nat} {process : Process} (h : process.reading ≠ .waiting) :
    (settle program i process).isSome := by
  unfold settle
  cases hr : process.reading with
  | waiting => exact absurd hr h
  | closed | malformed | reply => rfl

/-- **A waiting job leaves a move to make**: the first slot can take a job, or finish the one that
it is in the middle of. -/
theorem exists_move_of_waiting (hresp : IsResponsive program) {size : Nat} {moves : List Move}
    (hr : (ofSize size).run program moves = some p) (hc : p.cancelled = false) {k : Nat}
    (hk : k ∈ p.waitingNumbers) : ∃ i, (p.take program i).isSome ∨ (p.finish program i).isSome := by
  have hq : p.queue ≠ [] := by
    rintro hq
    rw [waitingNumbers, hq] at hk
    cases hk
  have hpos : 0 < p.slots.length := by
    rw [length_slots_run hr, length_slots_ofSize]
    omega
  obtain ⟨s, hs⟩ : ∃ s, p.slots[0]? = some s := ⟨_, List.getElem?_eq_getElem hpos⟩
  cases s with
  | waiting kept => exact ⟨0, .inl (exists_take program hc hs hq)⟩
  | busy job process =>
    obtain ⟨-, kept, hd⟩ := (isAccounted_run hr).busy 0 job process hs
    exact ⟨0, .inr (exists_finish hc hs (hresp 0 kept job.task process hd))⟩
  | stopped => exact absurd (isStopped_run hr hc _ (List.mem_of_getElem? hs)) (by decide)

/-- **Some moves hand out a waiting job**, without another submission. -/
theorem exists_handout (hresp : IsResponsive program) {size : Nat} {moves : List Move}
    (hr : (ofSize size).run program moves = some p) (hc : p.cancelled = false) {k : Nat}
    (hk : k ∈ p.waitingNumbers) :
    ∃ later q i, p.run program later = some q ∧ submittedTasks later = [] ∧
      (k, i) ∈ handouts program p later := by
  -- Each move brings the pool nearer to its rest, and at rest no job waits.
  induction hn : p.pending using Nat.strongRecOn generalizing moves p with
  | ind n ih =>
    obtain ⟨m, p', hm, ht, hs⟩ : ∃ m p', m ≠ .cancel ∧ submittedTask? m = none ∧
        p.step program m = some p' := by
      obtain ⟨i, h | h⟩ := exists_move_of_waiting hresp hr hc hk
      · obtain ⟨p', hs⟩ := Option.isSome_iff_exists.1 h
        exact ⟨.take i, p', by simp, rfl, hs⟩
      · obtain ⟨p', hs⟩ := Option.isSome_iff_exists.1 h
        exact ⟨.finish i, p', by simp, rfl, hs⟩
    obtain ⟨hc', hp⟩ := pending_step hc hm hs
    rw [ht, Option.toList_none, List.length_nil] at hp
    rcases handout?_or_mem_waitingNumbers hs hc' hk with ⟨i, hi⟩ | hk'
    · refine ⟨[m], p', i, run_single.2 hs, ?_, ?_⟩
      · rw [submittedTasks_cons, ht]
        rfl
      · rw [handouts, hi]
        exact List.mem_append_left _ (List.mem_singleton_self _)
    · obtain ⟨later, q, i, hrun, hsub, hi⟩ := ih p'.pending (by omega)
        (run_append.2 ⟨p, hr, run_single.2 hs⟩) hc' hk' rfl
      refine ⟨m :: later, q, i, run_cons_of_step hs hrun, ?_, ?_⟩
      · rw [submittedTasks_cons, ht, hsub]
        rfl
      · rw [handouts, hs]
        exact List.mem_append_right _ hi

/-! ## Workers that serve a site -/

variable {σ : Type}

/-- **Workers that serve a site can be read to an end**: a process that has ended is not waited for,
and one that lives has printed the frame of a reply. -/
theorem isResponsive_ownProgram [Wording] (processors : Nat) (site : Site σ) :
    IsResponsive (ownProgram processors site) := by
  intro i kept t sent hd
  apply settle_isSome
  obtain ⟨process, hp⟩ : ∃ process, processFor (ownProgram processors site) kept = .ok process := by
    cases kept with
    | none => exact ⟨.fresh, rfl⟩
    | some process => exact ⟨process, rfl⟩
  by_cases hw : t.IsWritable
  · obtain ⟨line, hl⟩ : ∃ line, t.line? = some line := ⟨_, Task.line?_of_isWritable hw⟩
    have hsent : sent = process.send (workerResponse processors site i) line := by
      simp only [dispatch, hp, hl] at hd
      cases hd
      rfl
    subst hsent
    unfold Process.reading Process.send
    cases ha : process.alive with
    | false =>
      rw [if_neg Bool.false_ne_true, ha]
      exact readReply_ended _
    | true =>
      simp only [if_true, workerResponse_printed processors site i hw hl,
        workerResponse_survives processors site i hw hl]
      cases hr : t.reply? (site.forSlot i) with
      | none => exact readReply_ended _
      | some r =>
        -- Reading comes to the frame, or to marked bytes before it.
        have hread := readReply_before_frame (process.unread ++ t.printed (site.forSlot i))
          (Task.isStored_of_reply? hr) []
        rw [List.append_assoc] at hread
        rcases hread with ⟨line, h⟩ | ⟨q, unread, h⟩ <;> simp [Reply.line, h]
  · simp only [dispatch, hp, Task.line?_of_not_isWritable hw] at hd
    cases hd

end SuitePool.Pool
