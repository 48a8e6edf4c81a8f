import SuitePool.Error
import SuitePool.TestId

/-!
# Grouping ids by suite

Ids are run suite by suite.  The groups come in increasing order of the suites' paths, and inside a
group the ids keep the order in which they were given.

## Main definitions

* `addToGroup`: one more id.
* `groupIds`: all ids.
-/

namespace SuitePool

/-- Ids grouped by the path of their suite. -/
abbrev Groups := List (String × List TestId)

/-- Adds an id at the end of its group. -/
def addToGroup (suite : String) (id : TestId) : Groups → Groups
  | [] => [(suite, [id])]
  | (key, ids) :: rest =>
    if suite < key then (suite, [id]) :: (key, ids) :: rest
    else if suite = key then (key, ids ++ [id]) :: rest
    else (key, ids) :: addToGroup suite id rest

/-- Adds an id to groups; an id without a dot belongs to no suite. -/
def addId (groups : Groups) (id : TestId) : Except Error Groups :=
  match id.suitePath? with
  | none => .error (.invalidTestId id.text)
  | some suite => .ok (addToGroup suite id groups)

/-- **The groups of a list of ids**, or the error of the first id that belongs to no suite. -/
def groupIds (ids : List TestId) : Except Error Groups := ids.foldlM addId []

end SuitePool
