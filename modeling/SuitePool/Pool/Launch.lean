import SuitePool.Environment
import SuitePool.FileTree

/-!
# Starting programs

A command names a program by its first part.  A name with a slash is a path; any other name is
looked for in the directories of a search path, one after the other.  A directory that lacks the
program is passed over, and so is one in which it may not be executed, but that is remembered; any
other fault ends the search.

No file of a tree may be executed, so a search only ever finds out why there is no program to start.

## Main definitions

* `LaunchError`
* `FileTree.execute`, `FileTree.executeFirst`
* `FileTree.launch`: why a command does not start a program.
-/

namespace SuitePool

open Text

/-- Why a program is not started. -/
inductive LaunchError where
  /-- A part of the command contains a zero byte. -/
  | zeroByte
  /-- It may not be executed. -/
  | denied
  /-- Its file cannot be reached. -/
  | unreachable (cause : FileError)
  deriving DecidableEq

def LaunchError.message : LaunchError → String
  | zeroByte => "nul byte found in provided data"
  | denied => "Permission denied (os error 13)"
  | unreachable cause => cause.message

/-- Is the search to go on after this error? -/
def LaunchError.isPassedOver : LaunchError → Bool
  | denied | unreachable .absent | unreachable .notDirectory => true
  | _ => false

/-- The variable with the directories in which programs are looked for. -/
def searchPathVariable : String := "PATH"

/-- The directories in which programs are looked for if that variable is not set. -/
def defaultSearchPath : String := "/bin:/usr/bin"

def colon : UInt8 := 58

/-- The files that a name may stand for.  An empty entry of the search path is the working
directory, and an entry longer than a path may be is left out. -/
def candidates (searchPath name : Bytes) : List Path :=
  ((parts colon searchPath).filter fun d => d.length ≤ greatestPathLength).map fun d =>
    if d = [] then ⟨name⟩ else ⟨d ++ slash :: name⟩

namespace FileTree

/-- Why the file at a path is not executed. -/
def execute (t : FileTree) (p : Path) : LaunchError :=
  match t.node? p with
  | .error e => .unreachable e
  | .ok _ => .denied

/-- **Why none of some files is executed**, where `last` is the fault of the one before them: a
fault that ends the search, else that one may not be executed, else the last one. -/
def executeFirst (t : FileTree) (denied : Bool) (last : LaunchError) : List Path → LaunchError
  | [] => if denied then .denied else last
  | p :: ps =>
    let e := t.execute p
    if e.isPassedOver then executeFirst t (denied || e == .denied) e ps else e

/-- Why the program with a name is not started. -/
def launchNamed (t : FileTree) (env : Environment) (name : Bytes) : LaunchError :=
  if name = [] then .unreachable .absent
  else if slash ∈ name then t.execute ⟨name⟩
  else if greatestNameLength < name.length then .unreachable .nameTooLong
  else
    let searchPath := (env.get? searchPathVariable).getD defaultSearchPath
    t.executeFirst false (.unreachable .absent) (candidates (utf8 searchPath) name)

/-- **Why a command does not start a program.** -/
def launch (t : FileTree) (env : Environment) (command : List String) : LaunchError :=
  if command.any fun part => part.toList.contains '\x00' then .zeroByte
  else t.launchNamed env (utf8 (command.headD ""))

end FileTree

end SuitePool
