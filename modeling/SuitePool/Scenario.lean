import SuitePool.FileTree.Build
import SuitePool.Json.Record
import SuitePool.Locale
import SuitePool.Script
import SuitePool.Wording

/-!
# Scenarios

A scenario describes in JSON what an invocation works with: scripted suites, a file tree, and an
environment.  What a description leaves out is absent or empty, and what it says in another form
than the one expected is left out.

## Main definitions

* `Scenario.registry`: the suites of a description.
* `Scenario.tree`: the files of a description.
* `Scenario.environment`: the variables of a description.
-/

namespace SuitePool.Scenario

open Text

/-- The libraries of a scenario are of few words. -/
instance wording : Wording := Terse.terse

/-! ## Reading members -/

/-- The items of a member that is an array. -/
def items (key : String) (j : Json) : List Json :=
  match j.member? key with
  | some (.array js) => js
  | _ => []

def string? (key : String) (j : Json) : Option String := (j.member? key).bind Json.string?

def string (key : String) (j : Json) : String := (string? key j).getD ""

/-- Is a member true? -/
def flag (key : String) (j : Json) : Bool := ((j.member? key).bind Json.bool?).getD false

/-- The whole number of a value. -/
def int? : Json → Option Int
  | .scalar (.number (.int i)) => some i
  | _ => none

/-- The bytes that pairs of hexadecimal digits denote. -/
def hexBytes : List Char → Bytes
  | a :: b :: cs =>
    let digit (c : Char) : Nat := if c.isDigit then c.toNat - 48 else c.toNat - 87
    .ofNat (digit a * 16 + digit b) :: hexBytes cs
  | _ => []

/-- The bytes of a member, written as hexadecimal digits. -/
def hex? (key : String) (j : Json) : Option Bytes := (string? key j).map (hexBytes ·.toList)

/-- Bytes that are given as a text or as hexadecimal digits. -/
def bytes (textKey hexKey : String) (j : Json) : Bytes :=
  (hex? hexKey j).getD (utf8 (string textKey j))

/-! ## Suites -/

/-- The action of an object with one member. -/
def action? : Json → Option Action
  | .object [(name, value)] =>
    if name = "add" then (int? value).map .add
    else if name = "expect" then (int? value).map .expect
    else if name = "err" then (value.list? Json.string?).map .fail
    else if name = "panic" ∨ name = "panic_static" then value.string?.map fun m => .panic (some m)
    else if name = "panic_value" then some (.panic none)
    else if name = "print" then value.string?.map fun s => .print (utf8 s)
    else if name = "print_hex" then value.string?.map fun s => .print (hexBytes s.toList)
    else if name = "exit" then (int? value).map fun i => .exit (.ofNat (i % 256).toNat)
    else none
  | _ => none

/-- The script of a member. -/
def script (key : String) (j : Json) : Script := (items key j).filterMap action?

/-- A member of a suite. -/
def member? (j : Json) : Option (String × MemberScript) :=
  match string? "method" j, string? "value" j, string? "getter" j with
  | some name, _, _ => some (name, .method (script "body" j))
  | _, some name, _ => some (name, .value)
  | _, _, some name => some (name, .getter (script "resolve" j) (script "body" j))
  | _, _, _ => none

/-- The description of a suite. -/
def suite (name : String) (j : Json) : SuiteScript where
  name := name
  isAbstract := flag "abstract" j
  construct := script "default" j
  setUp := script "set_up" j
  tearDown := script "tear_down" j
  members := (items "members" j).filterMap member?

/-- An item of a module. -/
def item? (j : Json) : Option (Item Int) :=
  match string? "class" j, string? "value" j, string? "suite" j with
  | some name, _, _ => some (.plainClass name)
  | _, some name, _ => some (.value name)
  | _, _, some name => some (.suite (suite name j).suite)
  | _, _, _ => none

def defaultRoot : String := "/pkg"

/-- **The suites of a description.** -/
def registry (j : Json) : Registry Int :=
  (items "modules" j).foldl
    (fun r m => r.extend (string "name" m) ((items "items" m).filterMap item?))
    (.empty (.ofString ((string? "root" j).getD defaultRoot)))

/-! ## Files -/

/-- The tree with one more entry. -/
def addEntry (t : FileTree) (j : Json) : FileTree :=
  match string? "file" j, string? "dir" j, string? "link" j, hex? "hex" j with
  | some p, _, _, _ => t.addFile (.ofString p) (bytes "content" "content_hex" j)
  | _, some p, _, _ => t.makeDirectories (.ofString p)
  | _, _, some p, _ => t.addLink (.ofString p) (.ofString (string "to" j))
  | _, _, _, some p => t.addFile ⟨p⟩ []
  | _, _, _, _ => t

/-- **The tree of a list of entries**, whose paths are relative to the directory at `root`. -/
def tree (root : List Bytes) (entries : List Json) : FileTree :=
  let start : FileTree := ⟨[], []⟩
  entries.foldl addEntry { start.putAt root (.directory []) with here := root }

/-- The tree with another working directory. -/
def workIn (t : FileTree) (p : Path) : FileTree :=
  match t.resolve true p with
  | .ok trail => { t with here := FileTree.namesOf trail }
  | .error _ => t

/-! ## Environment -/

/-- **The variables of a description** laid over others; a value that is no text removes one. -/
def environment (base : Environment) (j : Json) : Environment :=
  match j with
  | .object members =>
    members.foldl
      (fun env m =>
        let others := env.filter fun v => v.1 != m.1
        match m.2.string? with
        | some value => (m.1, value) :: others
        | none => others)
      base
  | _ => base

end SuitePool.Scenario
