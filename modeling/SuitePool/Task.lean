import SuitePool.Error
import SuitePool.Json.Reader
import SuitePool.Json.Writer
import SuitePool.Report.Record

/-!
# Tasks

A task is what the pool asks a worker process to do: discover the ids of one suite file, or run a
list of ids.  It travels as one line of JSON.

## Main definitions

* `Task`
* `Task.toJson`, `Task.ofJson?`
* `Task.line?`, `Task.parse?`: one line of a worker's input.
-/

namespace SuitePool

open Text

/-- What a worker process is asked to do. -/
inductive Task where
  /-- Discover the ids of one suite file. -/
  | discoverFile (file : Path) (modulePath : List Path)
  /-- Run test ids. -/
  | runTestIds (ids : List TestId)
  deriving DecidableEq

/-- Reads a path; any text is one. -/
def Path.ofJson? (j : Json) : Option Path := j.string?.map Path.ofString

/-- Writes a path; ill-formed bytes are replaced. -/
def Path.toJson (p : Path) : Json := .string p.text

namespace Task

/-- Writes a task. -/
def toJson : Task → Json
  | discoverFile file modulePath =>
    .object [("task", .string "discover_file"), ("file", file.toJson),
      ("module_path", .array (modulePath.map Path.toJson))]
  | runTestIds ids =>
    .object [("task", .string "run_test_ids"), ("test_ids", .array (ids.map TestId.toJson))]

/-- **Reads a task.** -/
def ofJson? (j : Json) : Option Task := do
  let (name, fields) ← j.variant? "task"
  if name = "discover_file" then
    let [file, modulePath] ← fields.fields? ["file", "module_path"] | none
    some (.discoverFile (← Path.ofJson? file) (← modulePath.list? Path.ofJson?))
  else if name = "run_test_ids" then
    let [ids] ← fields.fields? ["test_ids"] | none
    some (.runTestIds (← ids.list? TestId.ofJson?))
  else none

/-- The paths of a task. -/
def paths : Task → List Path
  | discoverFile file modulePath => file :: modulePath
  | runTestIds _ => []

/-- The line of a task, its line feed included.  A path that is not UTF-8 cannot be written. -/
def line? (t : Task) : Option Bytes :=
  if t.paths.all (fun p => (text? p.bytes).isSome) then
    some (Utf8.encode (t.toJson.write ++ ['\n']))
  else none

/-- The task that a line holds. -/
def parse? (cs : List Char) : Option Task := (Json.parse? cs).bind ofJson?

end Task

end SuitePool
