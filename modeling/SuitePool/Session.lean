import SuitePool.Pool.Launch
import SuitePool.Pool.Schedule
import SuitePool.WorkerLoop

/-!
# Sessions

A session holds the suites, the files and the settings of one invocation, and the pool of worker
processes once it is needed.  Finding suite files, discovering ids and running them are its
services; discovering and running are done in this process or, *forked*, by the pool.

The worker processes of a pool serve the same suites over the same files, unless the settings or
the caller name another program for them.

## Main definitions

* `workerResponse`, `Session.program?`
* `Session.discoverIds`, `Session.findIds`, `Session.runIds`, `Session.runTests`
-/

namespace SuitePool

open Text

variable {σ : Type}

/-! ## Worker processes -/

/-- What events print on the stream of replies. -/
def printedBytes (events : List Event) : Bytes :=
  events.flatMap fun
    | .printed bytes => bytes
    | .wrote bytes => bytes
    | _ => []

/-- Did the code finish? -/
def Ending.isFinished {ε α : Type} : Ending ε α → Bool
  | finished _ => true
  | _ => false

/-- **What the worker process of a slot does with a line.** -/
def workerResponse [Wording] (processors : Nat) (site : Site σ) (slot : Nat) (line : Bytes) :
    Response :=
  let served := serveLine { site with host := ⟨some (Decimal.text slot)⟩ } .open [] line
  ⟨printedBytes served.events, served.ending.isFinished, complaint? processors served.ending⟩

/-- The program of worker processes that serve a site. -/
def ownProgram [Wording] (processors : Nat) (site : Site σ) : WorkerProgram :=
  ⟨none, workerResponse processors site, Wording.noReply⟩

/-- The program of worker processes that a command names. -/
def namedProgram [Wording] (t : FileTree) (env : Environment) (command : List String) :
    WorkerProgram where
  refusal := some (.notStarted (.ofString (command.headD "")) (t.launch env command).message)
  respond := fun _ _ => ⟨[], false, none⟩
  noReply := Wording.noReply

/-! ## Sessions -/

/-- A session. -/
structure Session (σ : Type) where
  /-- The suites, the files and this process. -/
  site : Site σ
  environment : Environment
  settings : Settings
  /-- The command that starts worker processes, in place of the one of the settings. -/
  command : Option (List String)
  /-- How many processors the host has. -/
  processors : Nat
  /-- The pool, once it is needed. -/
  crew : Option Crew

namespace Session

variable [Wording]

/-- The program of worker processes. -/
def program? (s : Session σ) : Except Error WorkerProgram :=
  match s.command <|> s.settings.workerCommand with
  | none => .ok (ownProgram s.processors s.site)
  | some [] => .error (.worker .emptyCommand)
  | some command => .ok (namedProgram s.site.tree s.environment command)

def poolSize (s : Session σ) : Nat := s.settings.poolSize s.processors

/-- The pool, made if it is needed for the first time, and its program. -/
def openPool (s : Session σ) : Except Error (Crew × WorkerProgram) := do
  let program ← s.program?
  .ok (s.crew.getD (.ofSize s.poolSize), program)

/-- The session with its pool opened, and the number of slots. -/
def openedPoolSize (s : Session σ) : Session σ × Except Error Nat :=
  match s.openPool with
  | .error e => (s, .error e)
  | .ok (crew, _) => ({ s with crew := some crew }, .ok crew.pool.size)

/-- **Shuts the pool down**, if there is one. -/
def shutDown (s : Session σ) : Session σ := { s with crew := s.crew.map Crew.shutDown }

/-- What appeared on the error stream because of worker processes. -/
def notices (s : Session σ) : List Notice :=
  match s.crew with
  | some crew => crew.pool.notices
  | none => []

/-! ## Services -/

def call {α : Type} (s : Session σ) (read : Json → Except String α)
    (tasks : Except Error (List Task)) : Session σ × Except Error (List α) :=
  match s.openPool with
  | .error e => (s, .error e)
  | .ok (crew, program) =>
    match tasks with
    | .error e => ({ s with crew := some crew }, .error e)
    | .ok tasks =>
      let (crew, outcome) := crew.call program read tasks
      ({ s with crew := some crew }, outcome)

/-- **Finds suite files.** -/
def findFiles (s : Session σ) (paths : List Path) : Except Error (List Path) :=
  findTestFiles s.site.tree paths none s.settings

/-- **Discovers the ids of suite files.** -/
def discoverIds (s : Session σ) (files : List Path) (forked : Bool) :
    Session σ × Exec Error (List TestId) :=
  if forked then
    let (s, ids) := s.call Crew.readIds
      (.ok (files.map fun file => .discoverFile file s.settings.modulePath))
    (s, .ofExcept (ids.map List.flatten))
  else
    (s, s.site.registry.discoverFiles s.site.tree s.site.host s.settings.modulePath files)

/-- **Finds suite files and discovers their ids.** -/
def findIds (s : Session σ) (paths : List Path) (forked : Bool) :
    Session σ × Exec Error (List TestId) :=
  match s.findFiles paths with
  | .error e => (s, .fail e)
  | .ok files => s.discoverIds files forked

/-- **Runs ids.** -/
def runIds (s : Session σ) (ids : List TestId) (forked : Bool) : Session σ × Exec Error Report :=
  if forked then
    let tasks := (groupIds ids).map fun groups => groups.map fun g => Task.runTestIds g.2
    let (s, reports) := s.call Crew.readReport tasks
    (s, .ofExcept (reports.map fun rs => rs.foldl Report.merge .empty))
  else (s, s.site.registry.runIds s.site.host ids)

/-- **Finds, discovers and runs.**  The settings decide whether to fork if the caller does not. -/
def runTests (s : Session σ) (paths : List Path) (forked : Option Bool) :
    Session σ × Exec Error Report :=
  let forked := forked.getD s.settings.forked
  let (s, found) := s.findIds paths forked
  match found.ending with
  -- A pool that was opened for finding is kept for running.
  | .finished ids =>
    let (s, ran) := s.runIds ids forked
    (s, found >>= fun _ => ran)
  | _ => (s, found >>= fun _ => pure .empty)

end Session

end SuitePool
