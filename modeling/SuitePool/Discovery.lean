import SuitePool.Finder
import SuitePool.ModuleName
import SuitePool.Registry

/-!
# Discovery

Discovery turns suite files into test ids.  A file names a module; every suite of the module that is
not abstract has its members inspected, and each callable member whose name starts with `test`
yields an id.  Other members with such a name are skipped with a warning.

## Main definitions

* `MemberState`, `Suite.inspect`
* `Registry.discoverModule`, `Registry.discoverFile`, `Registry.discoverFiles`
-/

namespace SuitePool

open Text

variable {σ ε : Type}

/-- What an inspection says about a member. -/
inductive MemberState where
  | callable
  | notCallable
  | unreadable (reason : String)
  deriving DecidableEq

/-! ## Inspecting a suite -/

/-- Inspects a member; a getter is asked for its method, and the error of one that fails is written
as a text. -/
def inspectMember (module suite : String) (host : Host) (member : String × Member σ) :
    Exec ε (String × MemberState) :=
  match member with
  | (name, .method _) => pure (name, .callable)
  | (name, .value) => pure (name, .notCallable)
  | (name, .getter resolve) => do
    let act := resolve host
    match ← (act.run module suite (.resolve name)).attempt with
    | .ok _ => pure (name, .callable)
    | .error f => do
      act.writeError
      pure (name, .unreadable f.text)

/-- **Inspects all members** of a suite, in their order. -/
def Suite.inspect (s : Suite σ) (module : String) (host : Host) :
    Exec ε (List (String × MemberState)) :=
  s.members.mapM (inspectMember module s.name host)

/-- What the names of tests start with. -/
def testWord : List Char := ['t', 'e', 's', 't']

/-- Does a name announce a test? -/
def announcesTest (name : String) : Bool := testWord.isPrefixOf name.toList

/-- The ids that an inspected member yields: one or none. -/
def idsOfMember (module suite : String) (member : String × MemberState) : Exec ε (List TestId) :=
  if announcesTest member.1 then
    match member.2 with
    | .callable => pure [.ofParts module suite member.1]
    | .notCallable => do
      Exec.emit (.warned ⟨module, suite, member.1, none⟩)
      pure []
    | .unreadable reason => do
      Exec.emit (.warned ⟨module, suite, member.1, some reason⟩)
      pure []
  else pure []

/-- The ids of an item of a module. -/
def idsOfItem (module : String) (host : Host) : Item σ → Exec ε (List TestId)
  | .suite s => do
    if s.isAbstract then pure []
    else
      let members ← s.inspect module host
      let ids ← members.mapM (idsOfMember module s.name)
      pure ids.flatten
  | _ => pure []

/-! ## Modules and files -/

namespace Registry

/-- **The ids of a module.** -/
def discoverModule (r : Registry σ) (host : Host) (name : String) : Exec Error (List TestId) := do
  let m ← Exec.ofExcept (r.loadModule name)
  let ids ← m.items.mapM (idsOfItem name host)
  pure ids.flatten

def moduleOfFile (t : FileTree) (modulePath : List Path) (file : Path) : Except Error String :=
  if !t.isFile file then .error (.fileNotFound file)
  else if file.extension? ≠ some (utf8 Error.suiteExtension) then .error (.unexpectedSuffix file)
  else
    match t.realPath? file with
    | none => .error (.fileNotFound file)
    | some real => moduleName t real modulePath

/-- **The ids of a suite file.** -/
def discoverFile (r : Registry σ) (t : FileTree) (host : Host) (modulePath : List Path)
    (file : Path) : Exec Error (List TestId) := do
  let name ← Exec.ofExcept (moduleOfFile t modulePath file)
  r.discoverModule host name

/-- **The ids of suite files**, in the order of the files. -/
def discoverFiles (r : Registry σ) (t : FileTree) (host : Host) (modulePath : List Path)
    (files : List Path) : Exec Error (List TestId) := do
  let ids ← files.mapM (r.discoverFile t host modulePath)
  pure ids.flatten

end Registry

end SuitePool
