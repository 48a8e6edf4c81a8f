import SuitePool.CommandLine
import SuitePool.Console
import SuitePool.Session
import SuitePool.Settings.File

/-!
# The program

One invocation reads its command line, chooses a language, loads its settings and does what the
command asks for.  Its outcome is an exit code and what it wrote to its two streams.  A run whose
report has problems is a failure of the program.

## Main definitions

* `Invocation`, `Outcome`
* `Invocation.run`
-/

namespace SuitePool

open Text

variable {σ : Type}

/-- What an invocation starts from. -/
structure Invocation (σ : Type) where
  arguments : List String
  environment : Environment
  /-- The files, with the working directory. -/
  tree : FileTree
  /-- The suites. -/
  registry : Registry σ
  input : Bytes
  /-- How many processors the host has. -/
  processors : Nat

/-- What an invocation comes to. -/
structure Outcome where
  code : UInt8
  /-- What it wrote to its standard output. -/
  output : Bytes
  /-- What it wrote to its standard error. -/
  errors : String
  deriving DecidableEq

namespace Invocation

variable [Wording]

/-! ## Surroundings -/

/-- The variable that holds the slot of a worker process. -/
def slotVariable : String := "TEST_FLEET_WORKER_SLOT"

/-- The settings file that is used if it exists and no other one is named. -/
def defaultSettingsFile : Path := .ofString "TestFleet.toml"

def host (i : Invocation σ) : Host := ⟨i.environment.get? slotVariable⟩

/-- Where the invocation does its tasks. -/
def site (i : Invocation σ) : Site σ := ⟨i.registry, i.tree, i.host⟩

/-- Are colours wanted? -/
def colours (i : Invocation σ) : Bool :=
  match i.environment.get? "CLICOLOR_FORCE" with
  | some value => value != "0"
  | none => false

def firstLocale (i : Invocation σ) : Locale :=
  Locale.choose (CommandLine.languageInAdvance? i.arguments) i.environment

/-- The language of the invocation when its settings are known. -/
def locale (i : Invocation σ) (settings : Settings) : Locale :=
  match CommandLine.languageInAdvance? i.arguments, settings.language with
  | none, some language => Locale.choose (some language) i.environment
  | _, _ => i.firstLocale

/-- The settings file: the one that is named, or the default one if there is one. -/
def settingsFile (i : Invocation σ) (o : Options) : Option Path :=
  match o.config with
  | some path => some path
  | none => if i.tree.isFile defaultSettingsFile then some defaultSettingsFile else none

/-- **The settings of the invocation.** -/
def settings (i : Invocation σ) (o : Options) : Except Error Settings := do
  let s ← Settings.load i.tree i.environment i.registry.root (i.settingsFile o)
  .ok (s.apply ⟨o.pattern, o.modulePath, o.workers, o.language⟩)

/-- The session of the invocation. -/
def session (i : Invocation σ) (settings : Settings) : Session σ where
  site := i.site
  environment := i.environment
  settings := settings
  command := none
  processors := i.processors
  crew := none

/-! ## Outcomes -/

def successCode : UInt8 := 0

def failureCode : UInt8 := 1

def usageCode : UInt8 := 2

/-- The exit code of a panic. -/
def panicCode : UInt8 := 101

/-- What appeared on the error stream because of worker processes. -/
def noticeText (notices : List Notice) : String := String.join (notices.map Notice.text)

/-- The outcome of something that was run, if it goes on with `next` when it has a value.  What was
printed on the way precedes everything else. -/
def conclude {α : Type} (x : Exec Error α) (errors : String) (next : α → Outcome) : Outcome :=
  let printed := printedBytes x.events
  match x.ending with
  | .finished a => ⟨(next a).code, printed ++ (next a).output, errors ++ (next a).errors⟩
  | .failed e => ⟨failureCode, printed, errors ++ errorLine e.message⟩
  | .panicked _ => ⟨panicCode, printed, errors⟩
  | .exited code => ⟨code, printed, errors⟩

/-! ## Commands -/

def runFind (s : Session σ) (o : Options) : Outcome :=
  conclude (.ofExcept (s.findFiles o.paths)) "" fun files =>
    ⟨successCode, utf8 (unlines (files.map Path.text)), ""⟩

def runDiscover (s : Session σ) (o : Options) : Outcome :=
  let (s, ids) := s.findIds o.paths o.forked
  conclude ids (noticeText s.notices) fun ids =>
    ⟨successCode, utf8 (unlines (ids.map TestId.text)), ""⟩

/-- What is said about a report. -/
def reportOutcome (colours : Bool) (locale : Locale) (r : Report) : Outcome :=
  let printed := printReport colours locale r
  if r.successful then
    ⟨successCode, [],
      printed ++ "\n" ++ Style.boldGreen.paint colours (locale.say .allPassed) ++ "\n"⟩
  else
    ⟨failureCode, [],
      printed ++ errorLine (locale.say (.testsFailed r.failures.length r.errors.length))⟩

def runTests (i : Invocation σ) (s : Session σ) (o : Options) : Outcome :=
  let forked := !o.sequential
  let locale := i.locale s.settings
  let announcement := if forked then .runningForked s.poolSize else .runningHere
  let first := Style.cyan.paint i.colours (locale.say announcement) ++ "\n"
  let (s, report) := s.runTests o.paths (some forked)
  conclude report (first ++ noticeText s.notices) (reportOutcome i.colours locale)

def runWorker (i : Invocation σ) : Outcome :=
  let served := serve i.site .open i.input
  let code :=
    match served.ending with
    | .finished _ => successCode
    | .failed _ | .panicked _ => failureCode
    | .exited code => code
  ⟨code, printedBytes served.events, (complaint? i.processors served.ending).getD ""⟩

/-- Loads the settings and goes on with a session that has them. -/
def withSession (i : Invocation σ) (o : Options) (next : Session σ → Outcome) : Outcome :=
  match i.settings o with
  | .error e =>
    ⟨failureCode, [],
      errorLine (i.firstLocale.say .settingsNotLoaded ++ ": " ++ e.message)⟩
  | .ok settings => next (i.session settings)

/-- **Does what a command asks for.** -/
def runCommand (i : Invocation σ) (c : Command) : Outcome :=
  match c.verb with
  | .find => i.withSession c.options fun s => runFind s c.options
  | .discover => i.withSession c.options fun s => runDiscover s c.options
  | .run => i.withSession c.options fun s => i.runTests s c.options
  | .worker => i.runWorker

/-- How the program is used. -/
def usage : String :=
  unlines
    ["Usage: test-fleet [--lang LANGUAGE] COMMAND",
      "",
      "Commands:",
      "  find [OPTIONS] [PATH]...",
      "  discover [OPTIONS] [--forked] [PATH]...",
      "  run [OPTIONS] [--sequential] [PATH]...",
      "",
      "Options:",
      "  -c, --config CONFIG",
      "      --pattern PATTERN",
      "      --module-path DIR",
      "  -j, --workers WORKERS",
      "      --lang LANGUAGE",
      "  -h, --help",
      "  -V, --version"]

def version : String := "test-fleet 0.1.0\n"

/-- **What an invocation comes to.** -/
def run (i : Invocation σ) : Outcome :=
  match CommandLine.parse i.arguments with
  | .error .help => ⟨successCode, utf8 usage, ""⟩
  | .error .version => ⟨successCode, utf8 version, ""⟩
  | .error .usage => ⟨usageCode, [], usage⟩
  | .ok c => i.runCommand c

end Invocation

end SuitePool
