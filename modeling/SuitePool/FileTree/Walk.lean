import SuitePool.FileTree
import SuitePool.Wildcard

/-!
# Walking a directory

A walk visits a directory, then everything below it: each entry before what lies inside it, the
entries of one directory in the order of their names' bytes.  Links below the start are visited but
not entered; the start itself may be a link.  A directory whose path is too long cannot be entered,
which ends the walk.  `FileTree.search` keeps the regular files, and links to them, whose name
matches a wildcard.

## Main definitions

* `FileNode.inside`: everything below a node, in the order of a walk.
* `FileTree.walk`, `FileTree.search`
-/

namespace SuitePool

open Text

/-- Something that a walk visits. -/
structure Entry where
  /-- Its path, starting with the path of the walk. -/
  path : Path
  name : Bytes
  deriving DecidableEq

/-- Why a walk ends before it has visited everything. -/
structure WalkError where
  /-- The path that cannot be visited or entered. -/
  path : Path
  /-- What is wrong with it. -/
  cause : FileError
  deriving DecidableEq

def WalkError.message (e : WalkError) : String :=
  "IO error for operation on " ++ e.path.text ++ ": " ++ e.cause.message

/-- One step of a walk. -/
abbrev Visit := Except WalkError Entry

namespace FileNode

/-- Visits in the order of their names. -/
def inOrder (visits : List (Bytes × List Visit)) : List Visit :=
  (visits.mergeSort fun a b => decide (a.1 ≤ b.1)).flatMap (·.2)

mutual

/-- **Everything below a node** whose path is `p`. -/
def inside (p : Path) : FileNode → List Visit
  | .directory entries =>
    if greatestPathLength < p.bytes.length then [.error ⟨p, .nameTooLong⟩]
    else inOrder (visits p entries)
  | _ => []

/-- The visits of the entries of a directory, each with its name. -/
def visits (p : Path) : List (Bytes × FileNode) → List (Bytes × List Visit)
  | [] => []
  | (n, node) :: rest =>
    (n, .ok ⟨p.join ⟨n⟩, n⟩ :: inside (p.join ⟨n⟩) node) :: visits p rest

end

end FileNode

namespace FileTree

/-- The name under which the start of a walk is visited. -/
def startName (p : Path) : Bytes := p.fileName?.getD p.bytes

/-- **Everything that a walk from `p` visits.** -/
def walk (t : FileTree) (p : Path) : Except WalkError (List Entry) := do
  let start ← (t.resolve false p).mapError (WalkError.mk p)
  let node ←
    match start.node t.top with
    | .link _ => (t.node? p).mapError (WalkError.mk p)
    | node => .ok node
  (.ok ⟨p, startName p⟩ :: node.inside p).mapM id

/-- Does the name of an entry match a wildcard?  A name that is not UTF-8 matches none. -/
def matchesName (pattern : String) (e : Entry) : Bool :=
  match text? e.name with
  | some name => wildcardMatch pattern name
  | none => false

/-- **The real paths of the regular files** at or below `dir` whose name matches. -/
def search (t : FileTree) (dir : Path) (pattern : String) : Except WalkError (List Path) := do
  let entries ← t.walk dir
  .ok (entries.filterMap fun e =>
    if matchesName pattern e && t.isFile e.path then t.realPath? e.path else none)

end FileTree

end SuitePool
