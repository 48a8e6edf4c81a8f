import SuitePool.Path

/-!
# File trees

Suite files live in a tree of directories, regular files and symbolic links.  A path is resolved
one step at a time: from a directory one can stay, go up, or enter an entry; a link is replaced by
the path it points to.  Forty links may be followed on the way, so resolving ends even where links
form a circle.

## Main definitions

* `FileNode`, `FileTree`
* `FileError`: why a path leads nowhere.
* `FileTree.resolve`: the place a path leads to.
* `FileTree.isFile`, `FileTree.isDirectory`, `FileTree.realPath?`, `FileTree.readText`
-/

namespace SuitePool

open Text

/-- A node of a file tree. -/
inductive FileNode where
  | file (content : Bytes)
  | directory (entries : List (Bytes × FileNode))
  | link (target : Path)

/-- A file tree with a working directory. -/
structure FileTree where
  /-- The entries of the root directory. -/
  top : List (Bytes × FileNode)
  /-- The names that lead from the root to the working directory. -/
  here : List Bytes

/-- Why a path leads nowhere, or a file cannot be read. -/
inductive FileError where
  /-- Nothing has this name. -/
  | absent
  /-- Something on the way is no directory. -/
  | notDirectory
  /-- A directory was to be read. -/
  | isDirectory
  /-- Too many links were followed. -/
  | tooManyLinks
  /-- A name or the path is too long. -/
  | nameTooLong
  /-- The path contains a zero byte. -/
  | zeroByte
  /-- The contents are not UTF-8. -/
  | notUtf8
  deriving DecidableEq

def FileError.message : FileError → String
  | absent => "No such file or directory (os error 2)"
  | notDirectory => "Not a directory (os error 20)"
  | isDirectory => "Is a directory (os error 21)"
  | tooManyLinks => "Too many levels of symbolic links (os error 40)"
  | nameTooLong => "File name too long (os error 36)"
  | zeroByte => "file name contained an unexpected NUL byte"
  | notUtf8 => "stream did not contain valid UTF-8"

/-! ## Steps of a path -/

/-- One step of a path. -/
inductive Step where
  /-- Stay in the directory. -/
  | stay
  /-- Go to the directory above. -/
  | up
  /-- Go to an entry. -/
  | enter (n : Bytes)
  deriving DecidableEq

/-- The step that a segment stands for. -/
def Step.ofSegment (s : Bytes) : Step :=
  match Path.segment? s with
  | some (.name n) => .enter n
  | some .up => .up
  | _ => .stay

/-- The steps of a path.  A slash at its end asks for a directory, so it is a step too. -/
def Path.steps (p : Path) : List Step := (parts slash p.bytes).map Step.ofSegment

/-! ## Places -/

/-- A place in a tree: the nodes that lead to it, with their names, innermost first.  The empty
trail is the root directory. -/
abbrev Trail := List (Bytes × FileNode)

/-- The node at a place. -/
def Trail.node (top : List (Bytes × FileNode)) : Trail → FileNode
  | [] => .directory top
  | (_, n) :: _ => n

/-- The absolute path of a place. -/
def Trail.path (trail : Trail) : Path := ⟨slash :: joinWith slash (trail.reverse.map (·.1))⟩

def lookupEntry (name : Bytes) (entries : List (Bytes × FileNode)) : Option FileNode :=
  (entries.find? fun e => e.1 == name).map (·.2)

def greatestNameLength : Nat := 255

def greatestPathLength : Nat := 4095

/-- How many links may be followed. -/
def greatestLinkCount : Nat := 40

/-! ## Resolving -/

/-- Takes steps from a place.  A link that the last step leads to is followed only if asked for. -/
def resolveSteps (top : List (Bytes × FileNode)) (follow : Bool) (links : Nat)
    (steps : List Step) (trail : Trail) : Except FileError Trail :=
  match steps with
  | [] => .ok trail
  | step :: rest =>
    match trail.node top with
    | .directory entries =>
      match step with
      | .stay => resolveSteps top follow links rest trail
      | .up => resolveSteps top follow links rest trail.tail
      | .enter n =>
        if greatestNameLength < n.length then .error .nameTooLong
        else
          match lookupEntry n entries with
          | none => .error .absent
          | some (.link target) =>
            if rest.isEmpty && !follow then .ok ((n, .link target) :: trail)
            else
              match links with
              | 0 => .error .tooManyLinks
              | links + 1 =>
                -- The target is read from the directory that holds the link.
                resolveSteps top follow links (target.steps ++ rest)
                  (if target.isAbsolute then [] else trail)
          | some node => resolveSteps top follow links rest ((n, node) :: trail)
    | _ => .error .notDirectory
termination_by (links, steps.length)

namespace FileTree

/-- The place of the working directory. -/
def workingTrail (t : FileTree) : Trail :=
  match resolveSteps t.top true greatestLinkCount (t.here.map .enter) [] with
  | .ok trail => trail
  | .error _ => []

/-- The place that the steps of a path lead to, however long its text is. -/
def resolveAny (t : FileTree) (follow : Bool) (p : Path) : Except FileError Trail :=
  if 0 ∈ p.bytes then .error .zeroByte
  else if p.bytes = [] then .error .absent
  else resolveSteps t.top follow greatestLinkCount p.steps
    (if p.isAbsolute then [] else t.workingTrail)

/-- **The place a path leads to.** -/
def resolve (t : FileTree) (follow : Bool) (p : Path) : Except FileError Trail :=
  if 0 ∈ p.bytes then .error .zeroByte
  else if greatestPathLength < p.bytes.length then .error .nameTooLong
  else t.resolveAny follow p

/-- The node a path leads to, links followed. -/
def node? (t : FileTree) (p : Path) : Except FileError FileNode :=
  (t.resolve true p).map (Trail.node t.top)

/-- Does the path lead to a regular file? -/
def isFile (t : FileTree) (p : Path) : Bool :=
  match t.node? p with
  | .ok (.file _) => true
  | _ => false

def isDirectory (t : FileTree) (p : Path) : Bool :=
  match t.node? p with
  | .ok (.directory _) => true
  | _ => false

/-- The absolute path, free of links, of the place a path leads to.  It is found component by
component, so it is the result that must not be too long, and not the path itself. -/
def realPath? (t : FileTree) (p : Path) : Option Path :=
  match t.resolveAny true p with
  | .ok trail => if greatestPathLength < trail.path.bytes.length then none else some trail.path
  | .error _ => none

/-- The contents of a regular file, as text. -/
def readText (t : FileTree) (p : Path) : Except FileError String := do
  match ← t.node? p with
  | .file content =>
    match text? content with
    | some s => .ok s
    | none => .error .notUtf8
  | _ => .error .isDirectory

end FileTree

end SuitePool
