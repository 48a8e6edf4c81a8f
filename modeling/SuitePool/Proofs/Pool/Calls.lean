import Mathlib.Data.List.Basic
import Mathlib.Data.List.Forall2
import Mathlib.Tactic.Common
import SuitePool.Pool.Schedule
import SuitePool.Proofs.Pool.Soundness

/-!
# Calls

A call submits some tasks and waits until all of them are answered, or one with an error.  Other
tasks may be submitted before, between and behind them.  What a call comes to is made of what its
tasks come to at some slots alone; and while it is not settled there is a move to make.

## Main definitions

* `IsCall`: the numbers under which the tasks of a call were submitted.
* `Yields`: what is read of a task's answer, at some slot.

## Main results

* `value?_of_outcome?`, `value?_of_outcome?_error`: the outcome of a call is made of its jobs'.
* `values_of_outcome?`, `error_of_outcome?`: these are what its tasks yield.
* `exists_move_of_outcome?`: a call that is not settled leaves a move to make.
-/

namespace SuitePool

open Pool Crew

/-- **Were these tasks submitted in this order, under these numbers?** -/
structure IsCall (submitted : List Task) (tasks : List Task) (numbers : List Nat) : Prop where
  /-- Their numbers increase. -/
  increasing : numbers.Pairwise (· < ·)
  /-- Each is the number of its task. -/
  tasks : List.Forall₂ (fun k t => submitted[k]? = some t) numbers tasks

/-- **Is this what is read of a task's answer**, at some slot? -/
def Yields {α : Type} (program : WorkerProgram) (read : Json → Except String α) (t : Task)
    (x : Except Error α) : Prop :=
  ∃ i a, answerAt program i t = some a ∧ readAnswer read a = x

variable {α : Type} {program : WorkerProgram} {read : Json → Except String α} {p : Pool}
  {submitted tasks : List Task} {numbers : List Nat}

/-- What became of a job is what its task yields. -/
theorem yields_of_value? (h : IsSound program submitted p) {k : Nat} {t : Task}
    (ht : submitted[k]? = some t) {x : Except Error α} (hx : value? read p k = some x) :
    Yields program read t x := by
  obtain ⟨a, ha, rfl⟩ := Option.map_eq_some_iff.1 hx
  obtain ⟨t', i, ht', -, hat⟩ := h.answerAt_of_answer? ha
  rw [ht, Option.some.injEq] at ht'
  subst ht'
  exact ⟨i, a, hat, rfl⟩

/-- **A call that comes to values** comes to those of its jobs. -/
theorem value?_of_outcome? {values : List α} (ho : outcome? read p numbers = some (.ok values)) :
    List.Forall₂ (fun k v => value? read p k = some (.ok v)) numbers values := by
  -- No answer is an error, so the outcome is made of the values of all.
  have hm : (numbers.map (value? read p)).mapM result? = some values := by
    simp only [outcome?] at ho
    split at ho
    · cases ho
    · obtain ⟨vs, hvs, he⟩ := Option.map_eq_some_iff.1 ho
      cases he
      exact hvs
  clear ho
  induction numbers generalizing values with
  | nil =>
    cases hm
    exact .nil
  | cons k numbers ih =>
    rw [List.map_cons, List.mapM_cons] at hm
    obtain ⟨v, hv, hm⟩ := Option.bind_eq_some_iff.1 hm
    obtain ⟨vs, hvs, hm⟩ := Option.bind_eq_some_iff.1 hm
    cases hm
    refine .cons ?_ (ih hvs)
    cases hval : value? read p k with
    | none => rw [hval] at hv; cases hv
    | some x =>
      cases x with
      | error e => rw [hval] at hv; cases hv
      | ok w => rw [hval] at hv; cases hv; rfl

/-- **A call that comes to an error** comes to that of one of its jobs. -/
theorem value?_of_outcome?_error {e : Error} (ho : outcome? read p numbers = some (.error e)) :
    ∃ k ∈ numbers, value? read p k = some (.error e) := by
  simp only [outcome?] at ho
  split at ho
  · next e' hf =>
    cases ho
    obtain ⟨x, hx, he⟩ := List.exists_of_findSome?_eq_some hf
    obtain ⟨k, hk, rfl⟩ := List.mem_map.1 hx
    refine ⟨k, hk, ?_⟩
    unfold error? at he
    split at he
    · next e'' hval => cases he; exact hval
    · cases he
  · obtain ⟨vs, -, he⟩ := Option.map_eq_some_iff.1 ho
    cases he

/-- **The values of a call are those of its tasks.** -/
theorem values_of_outcome? (h : IsSound program submitted p)
    (hc : List.Forall₂ (fun k t => submitted[k]? = some t) numbers tasks) {values : List α}
    (ho : outcome? read p numbers = some (.ok values)) :
    List.Forall₂ (fun t v => Yields program read t (.ok v)) tasks values := by
  have hvalues := value?_of_outcome? ho
  clear ho
  induction hc generalizing values with
  | nil =>
    cases hvalues
    exact .nil
  | cons hk _ ih =>
    cases hvalues with
    | cons hv hvs => exact .cons (yields_of_value? h hk hv) (ih hvs)

/-- The first answer that is an error is that of one of the tasks. -/
theorem error_of_findSome? (h : IsSound program submitted p)
    (hi : numbers.Pairwise (· < ·))
    (hc : List.Forall₂ (fun k t => submitted[k]? = some t) numbers tasks) {e : Error}
    (hf : (numbers.map (value? read p)).findSome? error? = some e) :
    (∃ k ∈ numbers, (p.answer? k).isSome) ∧
      ∃ before t after, tasks = before ++ t :: after ∧ Yields program read t (.error e) ∧
        (p.slots.length = 1 → ∀ b ∈ before, ∃ v, Yields program read b (.ok v)) := by
  induction hc with
  | nil => cases hf
  | @cons k t numbers tasks hk _ ih =>
    rw [List.pairwise_cons] at hi
    rw [List.map_cons, List.findSome?_cons] at hf
    cases hval : value? read p k with
    | none =>
      rw [hval] at hf
      obtain ⟨⟨k', hk', ha⟩, before, t', after, rfl, hy, hb⟩ := ih hi.2 hf
      refine ⟨⟨k', List.mem_cons_of_mem _ hk', ha⟩, t :: before, t', after, rfl, hy, ?_⟩
      intro hl
      -- A single slot has answered this job, too.
      have hs := h.answer?_isSome_of_lt hl (hi.1 k' hk') ha
      rw [value?, Option.map_eq_none_iff] at hval
      rw [hval] at hs
      cases hs
    | some x =>
      have hy := yields_of_value? h hk hval
      have ha : (p.answer? k).isSome := by
        rw [← Option.isSome_map (f := readAnswer read)]
        show (value? read p k).isSome
        rw [hval]
        rfl
      cases x with
      | error e' =>
        -- This is the error, and there are no tasks before.
        rw [hval] at hf
        cases hf
        exact ⟨⟨k, List.mem_cons_self .., ha⟩, [], t, tasks, rfl, hy, by simp⟩
      | ok v =>
        rw [hval] at hf
        obtain ⟨-, before, t', after, rfl, hy', hb⟩ := ih hi.2 hf
        refine ⟨⟨k, List.mem_cons_self .., ha⟩, t :: before, t', after, rfl, hy', ?_⟩
        intro hl
        rw [List.forall_mem_cons]
        exact ⟨⟨v, hy⟩, hb hl⟩

/-- **The error of a call is that of one of its tasks**, and with a single slot those before it come
to values. -/
theorem error_of_outcome? (h : IsSound program submitted p) (hc : IsCall submitted tasks numbers)
    {e : Error} (ho : outcome? read p numbers = some (.error e)) :
    ∃ before t after, tasks = before ++ t :: after ∧ Yields program read t (.error e) ∧
      (p.slots.length = 1 → ∀ b ∈ before, ∃ v, Yields program read b (.ok v)) := by
  simp only [outcome?] at ho
  split at ho
  · next e' hf =>
    cases ho
    exact (error_of_findSome? h hc.increasing hc.tasks hf).2
  · obtain ⟨vs, -, he⟩ := Option.map_eq_some_iff.1 ho
    cases he

/-- A call that is not settled has a job without an answer. -/
theorem exists_unanswered (ho : outcome? read p numbers = none) :
    ∃ k ∈ numbers, p.answer? k = none := by
  simp only [outcome?] at ho
  split at ho
  · cases ho
  · next hf =>
    rw [Option.map_eq_none_iff] at ho
    induction numbers with
    | nil => cases ho
    | cons k numbers ih =>
      rw [List.map_cons, List.findSome?_cons] at hf
      rw [List.map_cons, List.mapM_cons] at ho
      cases hval : value? read p k with
      | none =>
        rw [value?, Option.map_eq_none_iff] at hval
        exact ⟨k, List.mem_cons_self .., hval⟩
      | some x =>
        rw [hval] at hf ho
        cases x with
        | error e => cases hf
        | ok v =>
          -- This job has a value, so it is one of the others that has none.
          have hm : (numbers.map (value? read p)).mapM result? = none := by
            cases hm : (numbers.map (value? read p)).mapM result? with
            | none => rfl
            | some vs => rw [hm] at ho; cases ho
          obtain ⟨k', hk', ha⟩ := ih hf hm
          exact ⟨k', List.mem_cons_of_mem _ hk', ha⟩

theorem IsCall.lt_length (hc : IsCall submitted tasks numbers) {k : Nat} (hk : k ∈ numbers) :
    k < submitted.length := by
  have ht := hc.tasks
  clear hc
  induction ht with
  | nil => cases hk
  | cons h _ ih =>
    rcases List.mem_cons.1 hk with rfl | hk
    · exact (List.getElem?_eq_some_iff.1 h).1
    · exact ih hk

/-- The tasks of a call are among those submitted. -/
theorem IsCall.mem_submitted (hc : IsCall submitted tasks numbers) {t : Task} (ht : t ∈ tasks) :
    t ∈ submitted := by
  have hts := hc.tasks
  clear hc
  induction hts with
  | nil => cases ht
  | cons h _ ih =>
    rcases List.mem_cons.1 ht with rfl | ht
    · exact List.mem_of_getElem? h
    · exact ih ht

/-- **A call that is not settled leaves a move to make.** -/
theorem exists_move_of_outcome? (h : IsSound program submitted p)
    (htidy : ∀ t ∈ submitted, ∀ i, IsTidy program i t) (hc : IsCall submitted tasks numbers)
    (ho : outcome? read p numbers = none) :
    ∃ i, (p.take program i).isSome ∨ (p.finish program i).isSome := by
  obtain ⟨k, hk, ha⟩ := exists_unanswered ho
  exact h.exists_move htidy (hc.lt_length hk) ha

end SuitePool
