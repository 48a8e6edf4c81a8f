import SuitePool.Json.Reader
import SuitePool.Program
import SuitePool.Scenario

/-!
# The executable

The arguments of the executable are those of one invocation; its standard input holds a scenario,
whose member `input` is what the invocation reads.  What the invocation writes is written to the
two streams of the executable, and its exit code is the executable's.
-/

namespace SuitePool

open Text

/-- The invocation of a scenario. -/
def Scenario.invocation (arguments : List String) (j : Json) : Invocation Int where
  arguments := arguments
  environment := Scenario.environment [] ((j.member? "env").getD .null)
  tree := Scenario.tree [] (Scenario.items "tree" j)
  registry := Scenario.registry ((j.member? "registry").getD .null)
  input := Scenario.bytes "input" "input_hex" j
  processors := 1

end SuitePool

open SuitePool in
/-- Runs the invocation of the scenario on the standard input. -/
def main (arguments : List String) : IO UInt32 := do
  let text ← (← IO.getStdin).readToEnd
  let scenario := ((Json.parse? text.toList).getD .null).normal
  let outcome := (Scenario.invocation arguments scenario).run
  (← IO.getStdout).write ⟨outcome.output.toArray⟩
  (← IO.getStderr).putStr outcome.errors
  pure outcome.code.toUInt32
