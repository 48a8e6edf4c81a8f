import SuitePool.Pool.Process
import SuitePool.Task

/-!
# The pool of worker processes

A pool has a fixed number of slots and one queue of jobs.  A slot that waits takes the first job of
the queue, starts a worker process if it has none, and sends it the job's task; when the reply can
be read it answers the job and waits again.  A process that ends, or writes a frame without a reply,
fails its job and is never used again.

Shutting down cancels the pool: from then on no slot takes a job, a slot in the middle of a job
answers it with an error, and waiting slots stop.  When the last slot stops, the jobs left in the
queue are dropped, and jobs submitted later are refused.

The pool is a state with labelled moves, each of them one poll of a slot or one call from outside,
so every interleaving is a list of moves.

## Main definitions

* `Job`, `Slot`, `Pool`
* `Move`, `Pool.step`, `Pool.run`
* `Pool.answer?`: the answer of a job.
-/

namespace SuitePool

open Text

/-- The answer of a job. -/
abbrev Answer := Except Error Json

/-- A task with its number in the pool. -/
structure Job where
  number : Nat
  task : Task
  deriving DecidableEq

/-- A slot of a pool. -/
inductive Slot where
  /-- Waiting for a job, perhaps with a process from an earlier one. -/
  | waiting (process : Option Process)
  /-- In the middle of a job. -/
  | busy (job : Job) (process : Process)
  /-- Stopped for good. -/
  | stopped
  deriving DecidableEq

/-- Has the slot stopped? -/
def Slot.isStopped : Slot → Bool
  | stopped => true
  | _ => false

/-- A pool. -/
structure Pool where
  /-- The jobs that wait, the next one first. -/
  queue : List Job
  slots : List Slot
  /-- Was the pool shut down? -/
  cancelled : Bool
  /-- How many jobs were submitted. -/
  submitted : Nat
  /-- The answers given, each with the number of its job. -/
  answers : List (Nat × Answer)
  /-- What appeared on the error stream. -/
  notices : List Notice

namespace Pool

/-- A pool of a number of slots, at least one. -/
def ofSize (size : Nat) : Pool where
  queue := []
  slots := List.replicate (max 1 size) (.waiting none)
  cancelled := false
  submitted := 0
  answers := []
  notices := []

def size (p : Pool) : Nat := p.slots.length

/-- Have all slots stopped? -/
def isStopped (p : Pool) : Bool := p.slots.all Slot.isStopped

/-- The answer of a job, if it was given. -/
def answer? (p : Pool) (number : Nat) : Option Answer :=
  (p.answers.find? fun a => a.1 == number).map (·.2)

/-- Puts a slot into a new state. -/
def setSlot (p : Pool) (i : Nat) (s : Slot) : Pool := { p with slots := p.slots.set i s }

/-- Answers a job. -/
def answer (p : Pool) (number : Nat) (a : Answer) : Pool :=
  { p with answers := p.answers ++ [(number, a)] }

/-- An answer that reports what went wrong with a worker. -/
def failure (e : WorkerError) : Answer := .error (.worker e)

/-! ## Moves -/

/-- Something that happens to a pool. -/
inductive Move where
  /-- A task is submitted. -/
  | submit (task : Task)
  /-- The pool is shut down. -/
  | cancel
  /-- A slot takes the first job of the queue. -/
  | take (slot : Nat)
  /-- A slot reads a reply, or finds that there will be none. -/
  | finish (slot : Nat)
  /-- A slot gives up its job because the pool was shut down. -/
  | abandon (slot : Nat)
  /-- A slot stops because the pool was shut down. -/
  | stop (slot : Nat)
  deriving DecidableEq

/-- A task is submitted: it is queued unless nobody is left to take it. -/
def submit (p : Pool) (task : Task) : Pool :=
  let numbered := { p with submitted := p.submitted + 1 }
  if p.isStopped then numbered.answer p.submitted (failure .refused)
  else { numbered with queue := p.queue ++ [⟨p.submitted, task⟩] }

/-- The process that a slot sends its next job to: the one it has, or a new one. -/
def processFor (program : WorkerProgram) : Option Process → Except WorkerError Process
  | some process => .ok process
  | none =>
    match program.refusal with
    | none => .ok .fresh
    | some e => .error e

/-- The process of a slot after it was sent a task. -/
def dispatch (program : WorkerProgram) (i : Nat) (process : Option Process) (task : Task) :
    Except WorkerError Process := do
  let process ← processFor program process
  match task.line? with
  | none => .error .unwritableTask
  | some line => .ok (process.send (program.respond i) line)

def take (program : WorkerProgram) (p : Pool) (i : Nat) : Option Pool :=
  if p.cancelled then none
  else
    match p.slots[i]?, p.queue with
    | some (.waiting process), job :: rest =>
      let taken := { p with queue := rest }
      match dispatch program i process job.task with
      | .ok process => some (taken.setSlot i (.busy job process))
      | .error e => some ((taken.setSlot i (.waiting none)).answer job.number (failure e))
    | _, _ => none

def finish (program : WorkerProgram) (p : Pool) (i : Nat) : Option Pool :=
  if p.cancelled then none
  else
    match p.slots[i]? with
    | some (.busy job process) =>
      let (lines, ending) := readReply process.alive process.unread
      let read := { p with notices := p.notices ++ process.notices i lines }
      match ending with
      | .waiting => none
      | .closed => some ((read.setSlot i (.waiting none)).answer job.number (failure (.exited i)))
      | .malformed line =>
        let e : WorkerError := .malformedReply i (program.noReply line)
        some ((read.setSlot i (.waiting none)).answer job.number (failure e))
      | .reply r unread =>
        let process : Process := ⟨unread, process.alive, none⟩
        some ((read.setSlot i (.waiting (some process))).answer job.number r.result)
    | _ => none

def abandon (p : Pool) (i : Nat) : Option Pool :=
  if p.cancelled then
    match p.slots[i]? with
    | some (.busy job _) =>
      some ((p.setSlot i (.waiting none)).answer job.number (failure .interrupted))
    | _ => none
  else none

def dropQueue (p : Pool) : Pool :=
  { p with
    queue := []
    answers := p.answers ++ p.queue.map fun job => (job.number, failure .dropped) }

/-- A slot stops; with the last one the queue is gone. -/
def stop (p : Pool) (i : Nat) : Option Pool :=
  if p.cancelled then
    match p.slots[i]? with
    | some (.waiting _) =>
      let stopped := p.setSlot i .stopped
      some (if stopped.isStopped then stopped.dropQueue else stopped)
    | _ => none
  else none

/-- **One move**, if it is possible. -/
def step (program : WorkerProgram) (p : Pool) : Move → Option Pool
  | .submit task => some (p.submit task)
  | .cancel => some { p with cancelled := true }
  | .take i => p.take program i
  | .finish i => p.finish program i
  | .abandon i => p.abandon i
  | .stop i => p.stop i

/-- **A list of moves**, if each of them is possible. -/
def run (program : WorkerProgram) (p : Pool) (moves : List Move) : Option Pool :=
  moves.foldlM (step program) p

end Pool

end SuitePool
