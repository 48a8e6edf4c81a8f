import SuitePool.Json.Record
import SuitePool.Report

/-!
# Reports in JSON

A report is written as a record of its counts and lists; its duration is written in whole
milliseconds, modulo `2 ^ 64`.

## Main definitions

* `Report.toJson`, `Report.ofJson?`
* `CaseFailure.toJson`, `CaseFailure.ofJson?`
-/

namespace SuitePool

/-- Nanoseconds in a millisecond. -/
def nanosecondsPerMillisecond : Nat := 1000000

/-- A duration in whole milliseconds, modulo `2 ^ 64`. -/
def wholeMilliseconds (nanoseconds : Nat) : Nat :=
  nanoseconds / nanosecondsPerMillisecond % UInt64.size

namespace TestId

def toJson (id : TestId) : Json := .string id.text

/-- Any text is read as an id. -/
def ofJson? (j : Json) : Option TestId := j.string?.map TestId.mk

end TestId

namespace Reason

def toJson (r : Reason) : Json := .string r.name

def ofJson? (j : Json) : Option Reason := do ofName? (← j.word?)

end Reason

namespace CaseFailure

def toJson (f : CaseFailure) : Json :=
  .object [("id", f.id.toJson), ("reason", f.reason.toJson), ("message", .string f.message)]

def ofJson? (j : Json) : Option CaseFailure := do
  let [id, reason, message] ← j.fields? ["id", "reason", "message"] | none
  some ⟨← TestId.ofJson? id, ← Reason.ofJson? reason, ← message.string?⟩

end CaseFailure

namespace Report

def toJson (r : Report) : Json :=
  .object [("tests_run", .nat r.testsRun.toNat),
    ("failures", .array (r.failures.map CaseFailure.toJson)),
    ("errors", .array (r.errors.map CaseFailure.toJson)),
    ("duration", .nat (wholeMilliseconds r.duration))]

/-- **Reads a report.** -/
def ofJson? (j : Json) : Option Report := do
  let [testsRun, failures, errors, duration] ←
    j.fields? ["tests_run", "failures", "errors", "duration"] | none
  some {
    testsRun := .ofNat (← testsRun.natural?)
    failures := ← failures.list? CaseFailure.ofJson?
    errors := ← errors.list? CaseFailure.ofJson?
    duration := (← duration.natural?) * nanosecondsPerMillisecond }

end Report

end SuitePool
