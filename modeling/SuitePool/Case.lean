import SuitePool.Registry
import SuitePool.Report

/-!
# Running one case

A case is a suite bound to the body of one of its members.  Running it builds a fresh instance, sets
it up, runs the body, tears down and drops the instance.  Errors and panics of the hooks are caught
and become problems of the case, and so the tear-down follows a body that failed.

What is done about a problem is not caught.  A panic that passes while an error is written as a
text, or while an error, a payload or the instance is dropped, leaves the case, and drops the
instance on its way.

## Main definitions

* `Suite.bind`: the body of a member.
* `Suite.runStage`: a hook that is called on an instance which is set up.
* `Suite.runStages`: the problems of a case.
* `Suite.runCase`: one more case in a report.
-/

namespace SuitePool

variable {σ ε : Type}

/-- Something that went wrong in a case. -/
structure Problem where
  reason : Reason
  message : String
  deriving DecidableEq

/-- The text of a panic. -/
def panicText : Option String → String
  | some s => "panicked: " ++ s
  | none => "panicked"

/-- The problem of a stage whose errors count as `reason`. -/
def Problem.ofCaught (reason : Reason) : Exec.Caught Failure → Problem
  | .failed f => ⟨reason, f.text⟩
  | .panicked m => ⟨.panicked, panicText m⟩

/-- The problems of a stage: none or one. -/
def Problem.ofStage (reason : Reason) : Except (Exec.Caught Failure) Unit → List Problem
  | .ok () => []
  | .error c => [.ofCaught reason c]

/-- **Asks a getter for its method.**  The error of one that fails is dropped, and another one is
given in its place. -/
def Act.resolved {α : Type} (a : Act Failure α) (module suite name : String) (e : Error) :
    Exec Error α := do
  match ← (a.run module suite (.resolve name)).attempt with
  | .ok body => pure body
  | .error _ => do
    a.dropping.run
    .fail e

namespace Suite

/-- **The body of a member.**  A getter is asked for it; any member that yields none is treated as
missing. -/
def bind (s : Suite σ) (module : String) (host : Host) (method : String) : Exec Error (Body σ) :=
  if s.isAbstract then .fail (.abstractSuite s.name)
  else
    match s.members.find? (fun m => m.1 == method) with
    | some (_, .method body) => pure body
    | some (name, .getter resolve) =>
      (resolve host).resolved module s.name name (.methodNotFound s.name method)
    | _ => .fail (.methodNotFound s.name method)

/-- **A stage of a case**: a hook has been called on an instance, and has left it as it is now. -/
def runStage (s : Suite σ) (module : String) (host : Host) (reason : Reason) (hook : Hook)
    (left : σ) (act : Act Failure Unit) : Exec ε (List Problem) := do
  let found ← (act.run module s.name hook).contained
  act.settle.cleanedBy (s.drop host left).unnamed
  pure (Problem.ofStage reason found)

/-- Runs the body and the tear-down of a case on an instance that is set up. -/
def runBody (s : Suite σ) (module : String) (host : Host) (method : String) (body : Body σ)
    (ready : σ) : Exec ε (List Problem) := do
  let (used, act) := body host ready
  let ofBody ← s.runStage module host .failed (.body method) used act
  let (left, act) := s.tearDown host used
  let ofTearDown ← s.runStage module host .tearDown .tearDown left act
  (s.drop host left).unnamed
  pure (ofBody ++ ofTearDown)

/-- What is done about an instance whose set-up did not succeed.  It is dropped where panics are
caught; if that panics, the error of the set-up is given up. -/
def abandon (s : Suite σ) (host : Host) (left : σ) (act : Act Failure Unit) :
    Exec.Caught Failure → Exec ε (List Problem)
  | .failed f => do
    match ← ((s.drop host left).unnamed : Exec Empty Unit).contained with
    | .ok () => do
      act.writeError
      pure [⟨.setUp, f.text⟩]
    | .error (.panicked m) => do
      (s.drop host left).dropping.run
      pure [⟨.panicked, panicText m⟩]
  | .panicked m => do
    (s.drop host left).unnamed.whilePanicking
    act.dropping.run
    pure [⟨.panicked, panicText m⟩]

/-- **Runs the stages of a case** on a fresh instance. -/
def runStages (s : Suite σ) (module : String) (host : Host) (method : String) (body : Body σ) :
    Exec ε (List Problem) := do
  let built := s.construct host
  match ← (built.run module s.name .construct).contained with
  | .error (.panicked m) => do
    built.dropping.run
    pure [⟨.panicked, panicText m⟩]
  | .ok fresh =>
    -- An instance whose set-up failed is not torn down.
    let (ready, act) := s.setUp host fresh
    match ← (act.run module s.name .setUp).contained with
    | .error c => s.abandon host ready act c
    | .ok () => s.runBody module host method body ready

/-- **Runs a case**, counting it in a report and adding its problems. -/
def runCase (s : Suite σ) (module : String) (host : Host) (method : String) (body : Body σ)
    (id : TestId) (report : Report) : Exec ε Report := do
  let (problems, elapsed) ← (s.runStages module host method body).timed
  let counted := problems.foldl (fun r p => r.add ⟨id, p.reason, p.message⟩) report.startTest
  pure (counted.addDuration elapsed)

end Suite

end SuitePool
