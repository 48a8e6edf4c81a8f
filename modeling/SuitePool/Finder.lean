import SuitePool.Error
import SuitePool.FileTree.Walk
import SuitePool.Settings

/-!
# Finding suite files

Paths are expanded into a list of real suite files without repetitions.  A regular file is taken as
it is, a directory is searched for a wildcard, and of any other path the file name is taken as a
wildcard to search its parent directory for.

## Main definitions

* `searchPlan`: the directory and the wildcard that a path asks to search for.
* `findPathFiles`, `findTestFiles`
-/

namespace SuitePool

open Text

/-- The directory to search for a path that is no regular file, and the wildcard to search for. -/
def searchPlan (t : FileTree) (p : Path) (pattern : String) : Path × String :=
  if t.isDirectory p then (p, pattern)
  else
    let dir :=
      match p.parent? with
      | some parent => if parent.bytes = [] then Path.workingDirectory else parent
      | none => Path.workingDirectory
    (dir, (p.fileName?.map showBytes).getD pattern)

/-- The suite files that one path asks for. -/
def findPathFiles (t : FileTree) (pattern : String) (p : Path) : Except Error (List Path) :=
  if t.isFile p then
    match t.realPath? p with
    | some file => .ok [file]
    | none => .error (.fileNotFound p)
  else
    let (dir, pattern) := searchPlan t p pattern
    match t.search dir pattern with
    | .ok files => .ok files
    | .error e => .error (.testFilesNotFound dir pattern e.message)

/-- **The suite files that paths ask for**, each at its first occurrence.  Without paths the search
roots are used, and without a wildcard the one of the settings. -/
def findTestFiles (t : FileTree) (paths : List Path) (pattern : Option String)
    (settings : Settings) : Except Error (List Path) := do
  let paths := if paths.isEmpty then settings.searchRoots else paths
  let found ← paths.mapM (findPathFiles t (pattern.getD settings.filenamePattern))
  .ok found.flatten.eraseDups

end SuitePool
