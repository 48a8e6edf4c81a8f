import SuitePool.Error
import SuitePool.FileTree
import SuitePool.TestId

/-!
# Module names of suite files

A suite file is named relative to the module path, a list of root directories: the components below
the deepest root that contains the file, without the extension of the last one, joined by dots.
Roots that exist are compared by their real paths.

## Main definitions

* `depthBelow?`: how deep a root that contains the file is.
* `nameParts`: the parts of the name.
* `moduleName`
-/

namespace SuitePool

open Text SuitePool.Path

/-- The number of components of a root that properly contains the file. -/
def depthBelow? (file root : List Component) : Option Nat :=
  if root.isPrefixOf file && root.length < file.length then some root.length else none

/-- A name without its extension.  The name of a lone full stop is written with two of them, so it
never stands for the directory itself. -/
def dropExtension (n : Bytes) : Bytes :=
  match splitExtension n with
  | none => n
  | some (stem, _) => if stem = [fullStop] then [fullStop, fullStop] else stem

/-- The last component of a file, without its extension. -/
def lastPart : Component → Bytes
  | .name n => dropExtension n
  | c => c.bytes

/-- The parts of the name of a file with these components. -/
def nameParts : List Component → List String
  | [] => []
  | [c] => [showBytes (lastPart c)]
  | c :: more => showBytes c.bytes :: nameParts more

/-- The components of a root: those of its real path if it exists. -/
def rootComponents (t : FileTree) (root : Path) : List Component :=
  ((t.realPath? root).getD root).components

/-- **The module name of a file.** -/
def moduleName (t : FileTree) (file : Path) (roots : List Path) : Except Error String :=
  let components := file.components
  -- Two roots of one depth that contain the file have the same components.
  match (roots.filterMap fun r => depthBelow? components (rootComponents t r)).max? with
  | none => .error (.notInModulePath file roots)
  | some depth =>
    let names := nameParts (components.drop depth)
    let name := ".".intercalate names
    if names.all (fun n => isIdentifier n.toList) then .ok name
    else .error (.invalidModuleName file name)

end SuitePool
