import SuitePool.Case
import SuitePool.Grouping

/-!
# Running ids in one process

Ids are grouped by suite; the suites are loaded one after the other, and the cases of each are run
in turn.  One report collects everything.  An id whose suite or method is missing ends the run with
an error.

## Main definitions

* `Registry.runId`, `Registry.runGroup`, `Registry.runIds`
-/

namespace SuitePool

variable {σ : Type}

namespace Registry

/-- Runs the case of one id of a loaded suite. -/
def runId (module : String) (suite : Suite σ) (host : Host) (report : Report) (id : TestId) :
    Exec Error Report := do
  let method := id.method?.getD ""
  let body ← suite.bind module host method
  suite.runCase module host method body id report

/-- Runs the cases of one suite. -/
def runGroup (r : Registry σ) (host : Host) (report : Report) (group : String × List TestId) :
    Exec Error Report := do
  let (module, suite) ← Exec.ofExcept (r.loadSuite group.1)
  group.2.foldlM (runId module suite host) report

/-- **Runs ids**, suite by suite. -/
def runIds (r : Registry σ) (host : Host) (ids : List TestId) : Exec Error Report := do
  let groups ← Exec.ofExcept (groupIds ids)
  groups.foldlM (r.runGroup host) Report.empty

end Registry

end SuitePool
