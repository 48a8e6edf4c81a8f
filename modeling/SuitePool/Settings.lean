import SuitePool.Path

/-!
# Settings of a run

The settings of a run start from defaults for a package directory; a settings file and the command
line each replace some of them.

## Main definitions

* `Settings`, `Settings.defaults`
* `Overrides`, `Settings.apply`
* `Settings.forked`, `Settings.poolSize`
-/

namespace SuitePool

/-- The settings of a run. -/
structure Settings where
  searchRoots : List Path
  /-- The wildcard for the names of suite files. -/
  filenamePattern : String
  /-- The roots that suite files are named relative to. -/
  modulePath : List Path
  /-- How many worker processes to use; the host decides if nothing is said. -/
  workerCount : Option Nat
  /-- The program that starts a worker process, and its arguments. -/
  workerCommand : Option (List String)
  language : Option String
  deriving DecidableEq

/-- What the command line may replace; an empty module path replaces nothing. -/
structure Overrides where
  filenamePattern : Option String := none
  modulePath : List Path := []
  workerCount : Option Nat := none
  language : Option String := none
  deriving DecidableEq

namespace Settings

/-- Where suite files are searched in a package. -/
def defaultTestsDirectory : Path := .ofString "tests/unit"

/-- The default wildcard for the names of suite files. -/
def defaultFilenamePattern : String := "test_*.rs"

/-- The settings of a package about which nothing is said. -/
def defaults (package : Path) : Settings where
  searchRoots := [package.join defaultTestsDirectory]
  filenamePattern := defaultFilenamePattern
  modulePath := [package]
  workerCount := none
  workerCommand := none
  language := none

/-- **The settings with some of them replaced.** -/
def apply (s : Settings) (o : Overrides) : Settings where
  searchRoots := s.searchRoots
  filenamePattern := o.filenamePattern.getD s.filenamePattern
  modulePath := if o.modulePath = [] then s.modulePath else o.modulePath
  workerCount := o.workerCount <|> s.workerCount
  workerCommand := s.workerCommand
  language := o.language <|> s.language

/-- Are cases run in worker processes?  They are if a number of them is set that is not one. -/
def forked (s : Settings) : Bool :=
  match s.workerCount with
  | none => false
  | some n => n != 1

/-- How many worker processes there may be on a host with this many processors. -/
def poolSize (s : Settings) (processors : Nat) : Nat := max 1 (s.workerCount.getD processors)

end Settings

end SuitePool
