import SuitePool.Text.Utf8

/-!
# What running code does

The code of a suite may print, take time, fail, panic, or end the process it runs in.  `Exec` is
what can be seen of a piece of code that was run: the events in their order, the time it took, and
how it ended.  Pieces are put together one after the other; only one that has finished is followed
by the next.

## Main definitions

* `Ending`: how code ends.
* `Hook`, `Warning`, `Event`
* `Exec`, with its monad
* `Exec.attempt`, `Exec.contained`: code whose failures, or panics too, are caught.
* `Exec.whilePanicking`, `Exec.cleanedBy`: code that runs while a panic passes.

## Main results

* `Exec.bind_assoc`: putting pieces together is associative.
-/

namespace SuitePool

open Text

/-! ## Endings and events -/

/-- How code ends, with errors in `ε` and a value in `α`. -/
inductive Ending (ε α : Type) where
  /-- With a value. -/
  | finished (a : α)
  /-- With an error. -/
  | failed (e : ε)
  /-- With a panic, and the text of it if it has one. -/
  | panicked (message : Option String)
  /-- With the end of the process. -/
  | exited (code : UInt8)
  deriving DecidableEq

/-- The code of a suite that the pool calls. -/
inductive Hook where
  | construct
  | setUp
  | body (member : String)
  | tearDown
  | resolve (member : String)
  deriving DecidableEq

/-- A member of a suite that discovery skips although its name announces a test. -/
structure Warning where
  module : String
  suite : String
  member : String
  /-- Why the member could not be inspected; nothing if it merely cannot be called. -/
  reason : Option String
  deriving DecidableEq

/-- Something that is seen while code runs. -/
inductive Event where
  /-- A hook of a suite of a module is called. -/
  | called (module suite : String) (hook : Hook)
  /-- Suite code prints. -/
  | printed (bytes : Bytes)
  /-- Discovery skips a member. -/
  | warned (w : Warning)
  /-- A worker writes to the stream of its replies. -/
  | wrote (bytes : Bytes)
  deriving DecidableEq

/-! ## Runs -/

/-- What is seen of code that was run. -/
structure Exec (ε α : Type) where
  events : List Event
  /-- The time taken, in nanoseconds. -/
  elapsed : Nat
  ending : Ending ε α

namespace Exec

variable {ε φ α β γ : Type}

/-- Nothing is seen but the ending. -/
def ofEnding (e : Ending ε α) : Exec ε α := ⟨[], 0, e⟩

/-- One run after another. -/
protected def bind (x : Exec ε α) (f : α → Exec ε β) : Exec ε β :=
  match x.ending with
  | .finished a =>
    let y := f a
    ⟨x.events ++ y.events, x.elapsed + y.elapsed, y.ending⟩
  | .failed e => ⟨x.events, x.elapsed, .failed e⟩
  | .panicked m => ⟨x.events, x.elapsed, .panicked m⟩
  | .exited c => ⟨x.events, x.elapsed, .exited c⟩

instance : Monad (Exec ε) where
  pure a := ofEnding (.finished a)
  bind := Exec.bind

/-- Putting runs together is associative. -/
theorem bind_assoc (x : Exec ε α) (f : α → Exec ε β) (g : β → Exec ε γ) :
    x >>= f >>= g = x >>= fun a => f a >>= g := by
  obtain ⟨es, n, e⟩ := x
  cases e with
  | finished a =>
    simp only [bind, Exec.bind]
    cases (f a).ending <;> simp [List.append_assoc, Nat.add_assoc]
  | failed => rfl
  | panicked => rfl
  | exited => rfl

/-- A run without effect may precede any other. -/
theorem pure_bind (a : α) (f : α → Exec ε β) : (pure a : Exec ε α) >>= f = f a := by
  simp [bind, Exec.bind, pure, ofEnding]

/-- A run without effect may follow any other. -/
theorem bind_pure (x : Exec ε α) : x >>= pure = x := by
  obtain ⟨es, n, e⟩ := x
  cases e <;> simp [bind, Exec.bind, pure, ofEnding]

instance : LawfulMonad (Exec ε) :=
  LawfulMonad.mk' (Exec ε) (fun x => bind_pure x) (fun a f => pure_bind a f)
    (fun x f g => bind_assoc x f g)

def fail (e : ε) : Exec ε α := ofEnding (.failed e)

/-- A result that was found without running suite code. -/
def ofExcept : Except ε α → Exec ε α
  | .ok a => pure a
  | .error e => fail e

/-- Lets an event be seen. -/
def emit (e : Event) : Exec ε Unit := ⟨[e], 0, .finished ()⟩

/-- A run with another error in place of its own. -/
def mapError (f : ε → φ) (x : Exec ε α) : Exec φ α where
  events := x.events
  elapsed := x.elapsed
  ending :=
    match x.ending with
    | .finished a => .finished a
    | .failed e => .failed (f e)
    | .panicked m => .panicked m
    | .exited c => .exited c

/-- **A run whose failure is caught.** -/
def attempt (x : Exec ε α) : Exec φ (Except ε α) where
  events := x.events
  elapsed := x.elapsed
  ending :=
    match x.ending with
    | .finished a => .finished (.ok a)
    | .failed e => .finished (.error e)
    | .panicked m => .panicked m
    | .exited c => .exited c

/-- What may be caught of code that did not finish. -/
inductive Caught (ε : Type) where
  | failed (e : ε)
  | panicked (message : Option String)
  deriving DecidableEq

/-- **A run whose failure or panic is caught.** -/
def contained (x : Exec ε α) : Exec φ (Except (Caught ε) α) where
  events := x.events
  elapsed := x.elapsed
  ending :=
    match x.ending with
    | .finished a => .finished (.ok a)
    | .failed e => .finished (.error (.failed e))
    | .panicked m => .finished (.error (.panicked m))
    | .exited c => .exited c

/-- The exit code of a process that is aborted. -/
def abortCode : UInt8 := 134

/-- **A run while a panic passes.**  Another panic then aborts the process. -/
def whilePanicking (x : Exec ε α) : Exec ε α where
  events := x.events
  elapsed := x.elapsed
  ending :=
    match x.ending with
    | .panicked _ => .exited abortCode
    | e => e

/-- **A run whose panic, if it panics, passes through code that cleans up.** -/
def cleanedBy (x : Exec ε α) (cleanup : Exec ε Unit) : Exec ε α :=
  match x.ending with
  | .panicked m =>
    (⟨x.events, x.elapsed, .finished ()⟩ : Exec ε Unit) >>= fun _ =>
      cleanup.whilePanicking >>= fun _ => ofEnding (.panicked m)
  | _ => x

/-- A run together with the time it took. -/
def timed (x : Exec ε α) : Exec ε (α × Nat) := x >>= fun a => pure (a, x.elapsed)

end Exec

end SuitePool
