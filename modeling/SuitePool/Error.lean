import SuitePool.Decimal.Digits
import SuitePool.Path
import SuitePool.Text.Quoted

/-!
# Errors of finding, loading and running

Every error names its cause.  `Error.kind` is the coarse class that travels between processes, and
`Error.message` is the text that does; an error that arrives from a worker process has nothing but
these two.

## Main definitions

* `ErrorKind`, `Error`
* `Error.kind`, `Error.message`
-/

namespace SuitePool

open Text

/-- The coarse class of an error. -/
inductive ErrorKind where
  /-- A file, directory, module, suite or method does not exist. -/
  | notFound
  /-- The input exists but cannot be used as given. -/
  | invalidInput
  /-- A worker process could not be started, or went wrong. -/
  | worker
  /-- The settings file cannot be read. -/
  | config
  deriving DecidableEq

namespace ErrorKind

def name : ErrorKind → String
  | notFound => "not_found"
  | invalidInput => "invalid_input"
  | worker => "worker"
  | config => "config"

/-- The words for a class. -/
def text : ErrorKind → String
  | notFound => "not found"
  | invalidInput => "invalid input"
  | worker => "worker failure"
  | config => "configuration error"

def all : List ErrorKind := [notFound, invalidInput, worker, config]

def ofName? (s : String) : Option ErrorKind := all.find? (fun k => k.name == s)

end ErrorKind

/-- What goes wrong with a worker process or the pool around it. -/
inductive WorkerError where
  /-- The command that starts a worker process has no parts. -/
  | emptyCommand
  /-- The process of a worker could not be started. -/
  | notStarted (program : Path) (reason : String)
  /-- A path of the task is not UTF-8. -/
  | unwritableTask
  /-- The process of a slot ended before it answered. -/
  | exited (slot : Nat)
  /-- The process of a slot wrote a frame that holds no reply. -/
  | malformedReply (slot : Nat) (cause : String)
  /-- The reply holds a value of the wrong type. -/
  | unexpectedReply (cause : String)
  /-- The pool was shut down while the task was running. -/
  | interrupted
  /-- The task was given to a pool that had stopped. -/
  | refused
  /-- The pool stopped before the task was taken. -/
  | dropped
  /-- Any other failure, in its own words. -/
  | other (text : String)
  deriving DecidableEq

def WorkerError.message : WorkerError → String
  | emptyCommand => "worker command is empty"
  | notStarted program reason =>
    "failed to start worker '" ++ program.text ++ "': " ++ reason
  | unwritableTask => "path contains invalid UTF-8 characters"
  | exited slot => "worker " ++ Decimal.text slot ++ " exited unexpectedly"
  | malformedReply slot cause =>
    "worker " ++ Decimal.text slot ++ " sent a malformed reply: " ++ cause
  | unexpectedReply cause => "unexpected reply: " ++ cause
  | interrupted => "pool shut down"
  | refused => "pool is shut down"
  | dropped => "pool shut down before the task finished"
  | other text => text

/-- An error of finding, loading or running. -/
inductive Error where
  /-- A suite file does not exist. -/
  | fileNotFound (path : Path)
  /-- A directory could not be searched. -/
  | testFilesNotFound (dir : Path) (pattern : String) (reason : String)
  /-- A suite file has another extension than suite files have. -/
  | unexpectedSuffix (path : Path)
  /-- A suite file lies below no root of the module path. -/
  | notInModulePath (path : Path) (roots : List Path)
  /-- The name that a suite file maps to is no module name. -/
  | invalidModuleName (path : Path) (name : String)
  /-- No module has this name. -/
  | moduleNotFound (module : String)
  /-- No suite has this path. -/
  | suiteNotFound (suite : String)
  /-- The suite is only a base for other suites. -/
  | abstractSuite (suite : String)
  /-- The suite has no method of this name that can be run. -/
  | methodNotFound (suite method : String)
  /-- The text is no test id. -/
  | invalidTestId (id : String)
  /-- The settings file cannot be read. -/
  | config (path : Path) (reason : String)
  /-- A worker process or the pool failed. -/
  | worker (cause : WorkerError)
  /-- An error that a worker process reported. -/
  | remote (kind : ErrorKind) (message : String)
  deriving DecidableEq

namespace Error

/-- The extension of suite files. -/
def suiteExtension : String := "rs"

def kind : Error → ErrorKind
  | fileNotFound _ | testFilesNotFound .. | moduleNotFound _ | suiteNotFound _
  | methodNotFound .. => .notFound
  | unexpectedSuffix _ | notInModulePath .. | invalidModuleName .. | abstractSuite _
  | invalidTestId _ => .invalidInput
  | config .. => .config
  | worker _ => .worker
  | remote k _ => k

/-- **The text of an error.** -/
def message : Error → String
  | fileNotFound path => "test file '" ++ path.text ++ "' doesn't exist"
  | testFilesNotFound dir pattern reason =>
    "test files not found in '" ++ dir.text ++ "' matching '" ++ pattern ++ "': " ++ reason
  | unexpectedSuffix path =>
    "test file '" ++ path.text ++ "' hasn't expected suffix '." ++ suiteExtension ++ "'"
  | notInModulePath path roots =>
    "test file '" ++ path.text ++ "' is not in module path " ++ quoteAll (roots.map Path.bytes)
  | invalidModuleName path name =>
    "test file '" ++ path.text ++ "' maps to illegal module name '" ++ name ++ "'"
  | moduleNotFound module => "module '" ++ module ++ "' is not registered"
  | suiteNotFound suite => "test suite '" ++ suite ++ "' is not registered"
  | abstractSuite suite =>
    "test suite '" ++ suite ++ "' is abstract and cannot be instantiated"
  | methodNotFound suite method =>
    "test suite '" ++ suite ++ "' has no runnable method '" ++ method ++ "'"
  | invalidTestId id => "'" ++ id ++ "' is not a valid test id (expected module.Suite.method)"
  | config path reason => "failed to read configuration '" ++ path.text ++ "': " ++ reason
  | worker cause => "worker pool: " ++ cause.message
  | remote k message => k.text ++ ": " ++ message

/-- Does the error say that something does not exist? -/
def isNotFound (e : Error) : Bool := e.kind == .notFound

/-- Does the error say that the input cannot be used? -/
def isInvalidInput (e : Error) : Bool := e.kind == .invalidInput

end Error

end SuitePool
