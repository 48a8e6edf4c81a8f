import SuitePool.Pool
import SuitePool.Wording

/-!
# One way to schedule a pool

The moves of a pool may come in many orders.  This is one of them: slots take jobs in turns, and the
slot that has been busy for the longest time is the first to finish.  A call submits some tasks and
is settled when all of them are answered, or as soon as one is answered with an error; what is left
of the others then goes on during the next call.

## Main definitions

* `Crew`: a pool with the turns of its slots.
* `Crew.settle`: moves until a call is settled.
* `Crew.call`: the values of a call.
* `Crew.shutDown`
-/

namespace SuitePool

/-- A pool whose slots take turns. -/
structure Crew where
  pool : Pool
  /-- The waiting slots, the next one to take a job first. -/
  turns : List Nat
  /-- The busy slots, the next one to finish first. -/
  busy : List Nat

namespace Crew

/-- A pool of a number of slots, none of which had its turn. -/
def ofSize (size : Nat) : Crew :=
  let pool := Pool.ofSize size
  ⟨pool, List.range pool.size, []⟩

/-- Is the slot in the middle of a job? -/
def isBusy (p : Pool) (i : Nat) : Bool :=
  match p.slots[i]? with
  | some (.busy _ _) => true
  | _ => false

/-- The waiting slots take jobs, at most `fuel` of them. -/
def takeJobs (program : WorkerProgram) (c : Crew) : (fuel : Nat) → Crew
  | 0 => c
  | fuel + 1 =>
    match c.turns with
    | [] => c
    | i :: more =>
      match c.pool.take program i with
      | none => c
      | some pool =>
        if isBusy pool i then takeJobs program ⟨pool, more, c.busy ++ [i]⟩ fuel
        else takeJobs program ⟨pool, more ++ [i], c.busy⟩ fuel

/-- The slot that has been busy for the longest time finishes. -/
def finishJob (program : WorkerProgram) (c : Crew) : Option Crew :=
  match c.busy with
  | [] => none
  | i :: more => (c.pool.finish program i).map fun pool => ⟨pool, c.turns ++ [i], more⟩

/-! ## Calls -/

/-- Reads a value, or says why it cannot be read. -/
def readOr {α : Type} (say : Json → String) (read : Json → Option α) (j : Json) :
    Except String α :=
  match read j with
  | some a => .ok a
  | none => .error (say j)

/-- Reads the ids that were discovered in a file. -/
def readIds [Wording] : Json → Except String (List TestId) :=
  readOr Wording.noIds (Json.list? TestId.ofJson?)

/-- Reads the report of a run. -/
def readReport [Wording] : Json → Except String Report := readOr Wording.noReport Report.ofJson?

/-- The value of an answer, read as what the caller expects. -/
def readAnswer {α : Type} (read : Json → Except String α) : Answer → Except Error α
  | .error e => .error e
  | .ok j =>
    match read j with
    | .ok a => .ok a
    | .error cause => .error (.worker (.unexpectedReply cause))

/-- What became of a job; nothing while it has no answer. -/
def value? {α : Type} (read : Json → Except String α) (p : Pool) (number : Nat) :
    Option (Except Error α) :=
  (p.answer? number).map (readAnswer read)

/-- The error of a job, if that is what became of it. -/
def error? {α : Type} : Option (Except Error α) → Option Error
  | some (.error e) => some e
  | _ => none

/-- The value of a job, if that is what became of it. -/
def result? {α : Type} : Option (Except Error α) → Option α
  | some (.ok a) => some a
  | _ => none

/-- **The outcome of a call**: the error of one of its jobs, or the values of all; nothing while
neither is there. -/
def outcome? {α : Type} (read : Json → Except String α) (p : Pool) (numbers : List Nat) :
    Option (Except Error (List α)) :=
  let values := numbers.map (value? read p)
  match values.findSome? error? with
  | some e => some (.error e)
  | none => (values.mapM result?).map .ok

/-- Moves until a call is settled, at most `fuel` jobs long. -/
def settle {α : Type} (program : WorkerProgram) (read : Json → Except String α) (numbers : List Nat)
    (c : Crew) : (fuel : Nat) → Crew × Except Error (List α)
  | 0 => (c, .error (.worker .dropped))
  | fuel + 1 =>
    let c := c.takeJobs program c.pool.queue.length
    match outcome? read c.pool numbers with
    | some outcome => (c, outcome)
    | none =>
      match c.finishJob program with
      | none => (c, .error (.worker .dropped))
      | some c => settle program read numbers c fuel

/-- Submits tasks; their numbers follow one another. -/
def submitAll (c : Crew) (tasks : List Task) : Crew × List Nat :=
  ({ c with pool := tasks.foldl Pool.submit c.pool },
    (List.range tasks.length).map (c.pool.submitted + ·))

/-- **A call**: the values of some tasks, in their order, or the error of one of them. -/
def call {α : Type} (program : WorkerProgram) (read : Json → Except String α) (c : Crew)
    (tasks : List Task) : Crew × Except Error (List α) :=
  let (c, numbers) := c.submitAll tasks
  c.settle program read numbers (c.pool.queue.length + c.busy.length + 1)

/-- **Shuts the pool down**, and lets every slot stop. -/
def shutDown (c : Crew) : Crew :=
  let cancelled := { c.pool with cancelled := true }
  let slots := List.range cancelled.size
  let abandoned := slots.foldl (fun p i => (p.abandon i).getD p) cancelled
  let stopped := slots.foldl (fun p i => (p.stop i).getD p) abandoned
  ⟨stopped, [], []⟩

end Crew

end SuitePool
