import SuitePool.FileTree

/-!
# Building file trees

Trees are built entry by entry.  The directories above an entry are made as needed, and links on
the way to it are followed.  A file is written through a link that stands at its place, also where
nothing stands yet at the place that the link leads to.

## Main definitions

* `FileTree.makeDirectories`
* `FileTree.writingPlace?`
* `FileTree.addFile`, `FileTree.addLink`
-/

namespace SuitePool

open Text

namespace FileNode

mutual

/-- Puts a node at the end of a list of names, making directories on the way. -/
def put (new : FileNode) : List Bytes → FileNode → FileNode
  | [], _ => new
  | n :: ns, .directory entries => .directory (putEntry new n ns entries)
  | _, node => node

/-- Puts a node below the entry with a name. -/
def putEntry (new : FileNode) (n : Bytes) (ns : List Bytes) :
    List (Bytes × FileNode) → List (Bytes × FileNode)
  | [] => [(n, ns.foldr (fun m node => .directory [(m, node)]) new)]
  | (m, node) :: rest =>
    if m = n then (m, put new ns node) :: rest else (m, node) :: putEntry new n ns rest

end

end FileNode

namespace FileTree

/-- The names that lead to a place. -/
def namesOf (trail : Trail) : List Bytes := trail.reverse.map (·.1)

/-- The tree with a node put at a place. -/
def putAt (t : FileTree) (names : List Bytes) (node : FileNode) : FileTree :=
  match FileNode.put node names (.directory t.top) with
  | .directory entries => { t with top := entries }
  | _ => t

/-- The place of an entry of the directory at `names`, links followed, if it exists. -/
def entryPlace? (t : FileTree) (names : List Bytes) (n : Bytes) : Option (List Bytes) :=
  match resolveSteps t.top true greatestLinkCount ((names ++ [n]).map .enter) [] with
  | .ok trail => some (namesOf trail)
  | .error _ => none

/-- Takes steps from a place, making the directories that are missing. -/
def makeSteps (t : FileTree) (names : List Bytes) : List Step → FileTree × List Bytes
  | [] => (t, names)
  | .stay :: rest => makeSteps t names rest
  | .up :: rest => makeSteps t names.dropLast rest
  | .enter n :: rest =>
    match t.entryPlace? names n with
    | some place => makeSteps t place rest
    | none => makeSteps (t.putAt (names ++ [n]) (.directory [])) (names ++ [n]) rest

/-- Where the steps of a path start. -/
def originOf (t : FileTree) (p : Path) : List Bytes :=
  if p.isAbsolute then [] else namesOf t.workingTrail

/-- The tree with a directory at a path. -/
def makeDirectories (t : FileTree) (p : Path) : FileTree :=
  (t.makeSteps (t.originOf p) p.steps).1

/-- The place where a file with a name in the directory at `names` is written: links are followed,
at most `links` of them. -/
def writingPlace? (t : FileTree) :
    (links : Nat) → (names : List Bytes) → Bytes → Option (List Bytes)
  | links, names, n =>
    match resolveSteps t.top false greatestLinkCount ((names ++ [n]).map .enter) [] with
    | .error _ => some (names ++ [n])
    | .ok trail =>
      match trail.node t.top, links with
      | .link target, links + 1 =>
        let origin := if target.isAbsolute then [] else trail.tail
        match target.steps.getLast?,
            resolveSteps t.top true greatestLinkCount target.steps.dropLast origin with
        | some (.enter m), .ok parent => t.writingPlace? links (namesOf parent) m
        | _, _ => none
      | .link _, 0 => none
      | _, _ => some (names ++ [n])

/-- The tree with a directory above the last step of a path, the names that lead there, and the name
in that last step. -/
def prepare (t : FileTree) (p : Path) : Option (FileTree × List Bytes × Bytes) :=
  match p.steps.getLast? with
  | some (.enter n) =>
    let (t, names) := t.makeSteps (t.originOf p) p.steps.dropLast
    some (t, names, n)
  | _ => none

/-- **The tree with a regular file at a path.** -/
def addFile (t : FileTree) (p : Path) (content : Bytes) : FileTree :=
  match t.prepare p with
  | none => t
  | some (t, names, n) =>
    match t.writingPlace? greatestLinkCount names n with
    | some place => t.putAt place (.file content)
    | none => t

/-- **The tree with a symbolic link at a path**, unless something stands there. -/
def addLink (t : FileTree) (p target : Path) : FileTree :=
  match t.prepare p with
  | none => t
  | some (t, names, n) =>
    match resolveSteps t.top false greatestLinkCount ((names ++ [n]).map .enter) [] with
    | .error _ => t.putAt (names ++ [n]) (.link target)
    | .ok _ => t

end FileTree

end SuitePool
