import SuitePool.Error
import SuitePool.FileTree
import SuitePool.Settings
import SuitePool.Shell.Expansion
import SuitePool.Shell.Words
import SuitePool.Toml.Table
import SuitePool.Wording

/-!
# The settings file

A settings file has a language and a table `run` with five fields, all of them optional.  The table
may also be written as a list of the values of all fields; what follows them there is ignored.

Paths are expanded as a shell does and joined to the directory of the file; the worker command is
expanded and cut into words.

## Main definitions

* `RunFields`, `SettingsFile`
* `SettingsFile.parse`
* `Settings.mergeFile`, `Settings.load`
-/

namespace SuitePool

open Text

/-- The fields of the table `run`. -/
structure RunFields where
  searchRoots : Option (List String)
  filenamePattern : Option String
  modulePath : Option (List String)
  workers : Option Nat
  workerCommand : Option String
  deriving DecidableEq

/-- A table `run` without fields. -/
def RunFields.empty : RunFields := ⟨none, none, none, none, none⟩

/-- The contents of a settings file. -/
structure SettingsFile where
  language : Option String
  run : RunFields
  deriving DecidableEq

/-! ## Values of fields -/

namespace Toml.Value

def string? : Value → Option String
  | string s => some s
  | _ => none

def strings? : Value → Option (List String)
  | array items => items.mapM string?
  | _ => none

def natural? : Value → Option Nat
  | integer (some (.ofNat n)) => if n < UInt64.size then some n else none
  | _ => none

end Toml.Value

/-- The value of a field that may be left out. -/
def Toml.field? {α : Type} (read : Toml.Value → Option α) (name : String) (es : Toml.Entries) :
    Option (Option α) :=
  match Toml.lookup name es with
  | none => some none
  | some v => (read v).map some

/-- Has a table no fields but these? -/
def Toml.hasOnly (names : List String) (es : Toml.Entries) : Bool := es.all (names.contains ·.1)

namespace RunFields

def names : List String :=
  ["search_roots", "filename_pattern", "module_path", "workers", "worker_command"]

/-- The fields of a table. -/
def ofEntries? (es : Toml.Entries) : Option RunFields :=
  if Toml.hasOnly names es then do
    some ⟨← Toml.field? Toml.Value.strings? "search_roots" es,
      ← Toml.field? Toml.Value.string? "filename_pattern" es,
      ← Toml.field? Toml.Value.strings? "module_path" es,
      ← Toml.field? Toml.Value.natural? "workers" es,
      ← Toml.field? Toml.Value.string? "worker_command" es⟩
  else none

/-- **The fields that a value says.** -/
def ofValue? : Toml.Value → Option RunFields
  | .table _ es => ofEntries? es
  | .array (roots :: pattern :: modulePath :: workers :: command :: _) => do
    some ⟨← roots.strings?, ← pattern.string?, ← modulePath.strings?, ← workers.natural?,
      ← command.string?⟩
  | _ => none

end RunFields

namespace SettingsFile

/-- The contents of a settings file with these entries. -/
def ofEntries? (es : Toml.Entries) : Option SettingsFile :=
  if Toml.hasOnly ["language", "run"] es then do
    some ⟨← Toml.field? Toml.Value.string? "language" es,
      (← Toml.field? RunFields.ofValue? "run" es).getD .empty⟩
  else none

/-- **The contents of a settings file with this text.** -/
def parse (text : String) : Except Toml.ReadError SettingsFile :=
  match Toml.parse text with
  | .error e => .error e
  | .ok es =>
    match ofEntries? es with
    | none => .error .invalid
    | some f => .ok f

end SettingsFile

/-! ## Merging into settings -/

/-- Why a settings file cannot be used. -/
inductive SettingsError where
  /-- The file cannot be read. -/
  | unreadable (cause : FileError)
  /-- The text is no settings text. -/
  | malformed (text : String) (cause : Toml.ReadError)
  /-- A variable is not set. -/
  | lookup (e : Shell.LookupError)
  /-- There are to be no worker processes. -/
  | noWorkers
  /-- The worker command has no words. -/
  | badCommand (command : String)
  deriving DecidableEq

def SettingsError.message [Wording] : SettingsError → String
  | unreadable cause => cause.message
  | malformed text cause => Wording.noSettings text cause
  | lookup e => e.message
  | noWorkers => "`workers` must be at least 1"
  | badCommand command => "cannot parse worker_command: " ++ command

namespace Settings

/-- The directory that the paths of a settings file are relative to. -/
def baseOf (file : Path) : Path := file.parent?.getD Path.workingDirectory

/-- A path of a settings file. -/
def resolvePath (env : Environment) (base : Path) (raw : String) : Except SettingsError Path :=
  match Shell.expand env raw with
  | .ok s => .ok (base.join (.ofString s))
  | .error e => .error (.lookup e)

/-- The paths of a field, or those that are set already. -/
def resolvePaths (env : Environment) (base : Path) (old : List Path) :
    Option (List String) → Except SettingsError (List Path)
  | none => .ok old
  | some raws => raws.mapM (resolvePath env base)

/-- The number of worker processes, at least one. -/
def checkWorkers (old : Option Nat) : Option Nat → Except SettingsError (Option Nat)
  | none => .ok old
  | some 0 => .error .noWorkers
  | some n => .ok (some n)

/-- The words of the worker command, at least one. -/
def splitCommand (env : Environment) (old : Option (List String)) :
    Option String → Except SettingsError (Option (List String))
  | none => .ok old
  | some command =>
    match Shell.expand env command with
    | .error e => .error (.lookup e)
    | .ok expanded =>
      match Shell.words? expanded with
      | none | some [] => .error (.badCommand command)
      | some words => .ok (some words)

/-- **The settings with the fields of a settings file merged in.** -/
def mergeFile (s : Settings) (env : Environment) (base : Path) (f : SettingsFile) :
    Except SettingsError Settings := do
  let searchRoots ← resolvePaths env base s.searchRoots f.run.searchRoots
  let modulePath ← resolvePaths env base s.modulePath f.run.modulePath
  let workerCount ← checkWorkers s.workerCount f.run.workers
  let workerCommand ← splitCommand env s.workerCommand f.run.workerCommand
  .ok {
    searchRoots, modulePath, workerCount, workerCommand
    filenamePattern := f.run.filenamePattern.getD s.filenamePattern
    language := f.language <|> s.language }

/-- The contents of a settings file. -/
def readFile (t : FileTree) (file : Path) : Except SettingsError SettingsFile :=
  match t.readText file with
  | .error e => .error (.unreadable e)
  | .ok text =>
    match SettingsFile.parse text with
    | .error e => .error (.malformed text e)
    | .ok f => .ok f

/-- **The settings of a package**, with a settings file merged in if one is given. -/
def load [Wording] (t : FileTree) (env : Environment) (package : Path) (file : Option Path) :
    Except Error Settings :=
  match file with
  | none => .ok (defaults package)
  | some path =>
    match readFile t path >>= (defaults package).mergeFile env (baseOf path) with
    | .ok s => .ok s
    | .error e => .error (.config path e.message)

end Settings

end SuitePool
