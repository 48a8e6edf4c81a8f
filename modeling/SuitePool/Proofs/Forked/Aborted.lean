import Mathlib.Data.List.Basic
import Mathlib.Tactic.Common
import SuitePool.Proofs.Pool.Waiting
import SuitePool.Proofs.Session

/-!
# What an aborted run leaves behind

A forked run returns as soon as one of its tasks is answered with an error, and nobody waits for the
answers of its other tasks from then on.  The pool does not take notice of that.  The tasks of the
run that still wait in its queue stay there, and each of them is handed to a worker at last unless
the pool is shut down before.  So an aborted run starts no further cases exactly if the pool is shut
down when the run returns, or none of its tasks waits.

## Main definitions

* `Pool.StartsNoMore`: jobs that are not handed out any more.

## Main results

* `Pool.startsNoMore_iff`: when that is so.
* `exists_outcome?_error_of_run`: an aborted call stays aborted.
* `abortedRun_startsNoMore_iff`: what becomes of an aborted run.
-/

namespace SuitePool

open Pool

/-! ## Jobs that are not started -/

/-- **Are these jobs not handed out any more**, whatever moves come? -/
def Pool.StartsNoMore (program : WorkerProgram) (p : Pool) (numbers : List Nat) : Prop :=
  ∀ later q, p.run program later = some q → ∀ k ∈ numbers, ∀ i, (k, i) ∉ handouts program p later

variable {program : WorkerProgram} {p q : Pool} {numbers : List Nat}

/-- **Jobs are not handed out any more** exactly if the pool is shut down or none of them waits. -/
theorem Pool.startsNoMore_iff (hresp : IsResponsive program) {size : Nat} {moves : List Move}
    (hr : (ofSize size).run program moves = some p) (hold : ∀ k ∈ numbers, k < p.submitted) :
    p.StartsNoMore program numbers ↔
      p.cancelled = true ∨ ∀ k ∈ numbers, k ∉ p.waitingNumbers := by
  constructor
  · intro hno
    cases hc : p.cancelled with
    | true => exact .inl rfl
    | false =>
      refine .inr ?_
      intro k hk hw
      obtain ⟨later, q, i, hrun, -, hi⟩ := exists_handout hresp hr hc hw
      exact hno later q hrun k hk i hi
  · rintro (hc | hnone) later q hrun k hk i hi
    · rw [handouts_of_cancelled hc hrun] at hi
      cases hi
    · -- The job does not wait, and it is not new either.
      rcases mem_waitingNumbers_of_mem_handouts hrun hi with hw | hnew
      · exact hnone k hk hw
      · exact absurd (hold k hk) (Nat.not_lt.2 hnew)

/-! ## Calls that are aborted -/

section Call

variable {α : Type} {read : Json → Except String α}

/-- A call with a job that came to an error has come to an error. -/
theorem exists_outcome?_error {e : Error} {k : Nat} (hk : k ∈ numbers)
    (hv : Crew.value? read p k = some (.error e)) :
    ∃ e', Crew.outcome? read p numbers = some (.error e') := by
  have hf : ((numbers.map (Crew.value? read p)).findSome? Crew.error?).isSome := by
    refine List.findSome?_isSome_iff.2 ⟨_, List.mem_map.2 ⟨k, hk, rfl⟩, ?_⟩
    rw [hv]
    rfl
  obtain ⟨e', he⟩ := Option.isSome_iff_exists.1 hf
  exact ⟨e', by simp only [Crew.outcome?, he]⟩

/-- **An aborted call stays aborted**, whatever its other jobs come to. -/
theorem exists_outcome?_error_of_run {moves : List Move} (hr : p.run program moves = some q)
    {e : Error} (he : Crew.outcome? read p numbers = some (.error e)) :
    ∃ e', Crew.outcome? read q numbers = some (.error e') := by
  obtain ⟨k, hk, hv⟩ := value?_of_outcome?_error he
  obtain ⟨a, ha, hread⟩ := Option.map_eq_some_iff.1 hv
  have hq : Crew.value? read q k = some (.error e) := by
    rw [Crew.value?, answer?_run hr ha, Option.map_some, hread]
  exact exists_outcome?_error hk hq

end Call

/-- An aborted run stays aborted. -/
theorem exists_forkedRun?_error_of_run [Wording] {moves : List Move}
    (hr : p.run program moves = some q) {ids : List TestId} {e : Error}
    (he : forkedRun? ids numbers p = some (.error e)) :
    ∃ e', forkedRun? ids numbers q = some (.error e') := by
  unfold forkedRun? at he ⊢
  cases hg : groupIds ids with
  | error e' => exact ⟨e', rfl⟩
  | ok groups =>
    rw [hg] at he
    obtain ⟨o, ho, hmap⟩ := Option.map_eq_some_iff.1 he
    cases o with
    | ok reports => cases hmap
    | error e' =>
      obtain ⟨e'', hq⟩ := exists_outcome?_error_of_run hr ho
      exact ⟨e'', by simp only [hq]; rfl⟩

/-! ## Runs that are aborted -/

variable {σ : Type}

/-- **What becomes of an aborted run.**  The tasks of a forked run are among those that a pool was
given, in whatever order its slots took and finished jobs, and the run has come to an error.  Then
its tasks are not handed to workers any more exactly if the pool is shut down or none of them waits.
Whatever moves come, the run stays aborted; and while the pool is not shut down a task of the run
that waits is handed to a worker, or waits on and leaves a move to make.  There are only so many
moves, so that it is handed to a worker at last. -/
theorem abortedRun_startsNoMore_iff [Wording] (processors : Nat) (site : Site σ) {size : Nat}
    {moves : List Move} (hrun : (ofSize size).run (ownProgram processors site) moves = some p)
    {ids : List TestId} (hcall : IsCall (submittedTasks moves) (runTasksOf ids) numbers)
    {e : Error} (he : forkedRun? ids numbers p = some (.error e)) :
    (p.StartsNoMore (ownProgram processors site) numbers ↔
      p.cancelled = true ∨ ∀ k ∈ numbers, k ∉ p.waitingNumbers) ∧
    ∀ later q, p.run (ownProgram processors site) later = some q →
      (∃ e', forkedRun? ids numbers q = some (.error e')) ∧
      (q.cancelled = false →
        (∀ k ∈ numbers, k ∈ p.waitingNumbers →
          (∃ i, (k, i) ∈ handouts (ownProgram processors site) p later) ∨
            k ∈ q.waitingNumbers ∧
              ∃ i, (q.take (ownProgram processors site) i).isSome ∨
                (q.finish (ownProgram processors site) i).isSome) ∧
        later.length ≤ p.pending + 3 * (submittedTasks later).length) := by
  have hresp := isResponsive_ownProgram processors site
  constructor
  · apply startsNoMore_iff hresp hrun
    intro k hk
    rw [(isAccounted_run hrun).submitted]
    exact hcall.lt_length hk
  · intro later q hlater
    refine ⟨exists_forkedRun?_error_of_run hlater he, fun hq => ⟨fun k _ hw => ?_, ?_⟩⟩
    · rcases mem_handouts_or_waitingNumbers hlater hq hw with hi | hw
      · exact .inl hi
      · exact .inr ⟨hw, exists_move_of_waiting hresp (run_append.2 ⟨p, hrun, hlater⟩) hq hw⟩
    · have hlen := length_moves_le (notCancelled_of_run hlater hq) (cancel_not_mem hlater hq) hlater
      omega

/-! ## A run with an absent suite -/

/-- The id of a case whose suite is absent. -/
def absentId : TestId := .ofParts "m" "Absent" "test_none"

/-- The absent suite and the solo suite are given to one slot, which comes to the first of them. -/
def abortedMoves : List Move :=
  [.submit (.runTestIds [absentId]), .submit soloTask, .take 0, .finish 0]

open scoped Terse in
/-- **The solo suite is still to be started** when the run is aborted. -/
theorem abortedRun_starts_solo :
    ∃ p e, (ofSize 1).run (ownProgram 4 failingSite) abortedMoves = some p ∧
      IsCall (submittedTasks abortedMoves) (runTasksOf [absentId, soloId]) [0, 1] ∧
      forkedRun? [absentId, soloId] [0, 1] p = some (.error e) ∧
      ¬ p.StartsNoMore (ownProgram 4 failingSite) [0, 1] := by
  have hrun : ((ofSize 1).run (ownProgram 4 failingSite) abortedMoves).map (fun p =>
      (p.cancelled, p.waitingNumbers, forkedRun? [absentId, soloId] [0, 1] p)) =
      some (false, [1],
        some (.error (.remote .notFound (Error.suiteNotFound "m.Absent").message))) := by
    decide +kernel
  have hcall : IsCall (submittedTasks abortedMoves) (runTasksOf [absentId, soloId]) [0, 1] := by
    have ht : runTasksOf [absentId, soloId] = submittedTasks abortedMoves := by decide +kernel
    rw [ht]
    exact ⟨by decide, .cons rfl (.cons rfl .nil)⟩
  obtain ⟨p, hp, hstate⟩ := Option.map_eq_some_iff.1 hrun
  simp only [Prod.mk.injEq] at hstate
  obtain ⟨hc, hw, he⟩ := hstate
  refine ⟨p, _, hp, hcall, he, ?_⟩
  rw [(abortedRun_startsNoMore_iff 4 failingSite hp hcall he).1, hc, hw]
  decide

/-- Another run is begun behind the aborted one, and both go on. -/
def laterMoves : List Move :=
  [.submit (.runTestIds [.ofParts "m" "Other" "test_two"]), .take 0, .finish 0, .take 0, .finish 0]

open scoped Terse in
/-- **An aborted run goes on starting cases**: its waiting task is handed to the worker behind the
error, and the case does run.  It prints a forged report, so that its true one is read as the report
of the run that comes next. -/
theorem abortedRun_starts_more :
    ∃ p q, (ofSize 1).run (ownProgram 4 forgingSite) abortedMoves = some p ∧
      forkedRun? [absentId, soloId] [0, 1] p =
        some (.error (.remote .notFound (Error.suiteNotFound "m.Absent").message)) ∧
      p.run (ownProgram 4 forgingSite) laterMoves = some q ∧
      handouts (ownProgram 4 forgingSite) p laterMoves = [(1, 0), (2, 0)] ∧
      forkedRun? [.ofParts "m" "Other" "test_two"] [2] q = some (.ok soloReport) ∧
      ¬ p.StartsNoMore (ownProgram 4 forgingSite) [0, 1] := by
  have hrun : ((ofSize 1).run (ownProgram 4 forgingSite) abortedMoves).bind (fun p =>
      (p.run (ownProgram 4 forgingSite) laterMoves).map fun q =>
        (forkedRun? [absentId, soloId] [0, 1] p, handouts (ownProgram 4 forgingSite) p laterMoves,
          forkedRun? [.ofParts "m" "Other" "test_two"] [2] q)) =
      some (some (.error (.remote .notFound (Error.suiteNotFound "m.Absent").message)),
        [(1, 0), (2, 0)], some (.ok soloReport)) := by
    decide +kernel
  obtain ⟨p, hp, hlater⟩ := Option.bind_eq_some_iff.1 hrun
  obtain ⟨q, hq, hstate⟩ := Option.map_eq_some_iff.1 hlater
  simp only [Prod.mk.injEq] at hstate
  obtain ⟨he, hh, ho⟩ := hstate
  refine ⟨p, q, hp, he, hq, hh, ho, ?_⟩
  intro hno
  exact hno laterMoves q hq 1 (by decide) 0 (by rw [hh]; decide)

end SuitePool
