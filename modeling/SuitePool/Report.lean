import SuitePool.TestId

/-!
# Reports

A report says how many cases were run and records what went wrong in them.  A case whose body
returned an error is a *failure*; every other way to go wrong is an *error*.  Reports of several
worker processes are merged into one.

## Main definitions

* `Reason`, `Reason.isError`
* `CaseFailure`: one record.
* `Report`, `Report.startTest`, `Report.add`, `Report.merge`
* `Report.problems`, `Report.successful`
-/

namespace SuitePool

/-- The ways a case can go wrong. -/
inductive Reason where
  /-- The body returned an error. -/
  | failed
  /-- Set-up returned an error, and the body was not run. -/
  | setUp
  /-- Tear-down returned an error. -/
  | tearDown
  /-- Some stage of the case panicked. -/
  | panicked
  deriving DecidableEq

namespace Reason

/-- Everything but a failing body is an error. -/
def isError : Reason → Bool
  | failed => false
  | _ => true

def name : Reason → String
  | failed => "Failed"
  | setUp => "SetUp"
  | tearDown => "TearDown"
  | panicked => "Panicked"

def all : List Reason := [failed, setUp, tearDown, panicked]

def ofName? (s : String) : Option Reason := all.find? (fun r => r.name == s)

end Reason

/-- The record of a case that went wrong. -/
structure CaseFailure where
  id : TestId
  reason : Reason
  message : String
  deriving DecidableEq

/-- What a run of cases amounts to. -/
structure Report where
  /-- How many cases were run, modulo `2 ^ 64`. -/
  testsRun : UInt64
  /-- The cases whose body returned an error. -/
  failures : List CaseFailure
  /-- The cases that went wrong in another way. -/
  errors : List CaseFailure
  /-- How long the cases took, in nanoseconds. -/
  duration : Nat
  deriving DecidableEq

namespace Report

def empty : Report := ⟨0, [], [], 0⟩

/-- Counts one more case. -/
def startTest (r : Report) : Report := { r with testsRun := r.testsRun + 1 }

/-- Adds a record to the list it belongs to. -/
def add (r : Report) (f : CaseFailure) : Report :=
  if f.reason.isError then { r with errors := r.errors ++ [f] }
  else { r with failures := r.failures ++ [f] }

def addDuration (r : Report) (nanoseconds : Nat) : Report :=
  { r with duration := r.duration + nanoseconds }

/-- **Two reports in one**, the records of the first one first. -/
def merge (r s : Report) : Report where
  testsRun := r.testsRun + s.testsRun
  failures := r.failures ++ s.failures
  errors := r.errors ++ s.errors
  duration := r.duration + s.duration

/-- Did no case go wrong? -/
def successful (r : Report) : Bool := r.failures.isEmpty && r.errors.isEmpty

/-- All records, failures first. -/
def problems (r : Report) : List CaseFailure := r.failures ++ r.errors

end Report

end SuitePool
