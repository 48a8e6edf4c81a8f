import SuitePool.Error
import SuitePool.Exec
import SuitePool.TestId

/-!
# Suites and their registry

Suites are registered up front, as items of named modules.  A suite builds a fresh instance of its
state for every case; its hooks act on that instance, and its members are methods, getters that
yield a method when they are asked, and values that cannot be called.

Besides the hooks, suite code runs where nobody calls it by name: an error of its own is written as
a text, and errors, payloads of panics and instances are dropped.

All suite code is a function of its process and, where it acts on one, of its instance: a hook that
is called twice on the same instance does the same twice.  Code that keeps state elsewhere is code
that is another one at each case of a run; see `Registry.runChanging` for runs of such code.

A registry may be asked for a module by its name, and for a suite by the dotted path of module and
suite.  Extending a module adds items behind those it has.

## Main definitions

* `Host`, `Aftermath`, `Act`, `Body`: suite code.
* `Member`, `Suite`, `Item`, `Module`, `Registry`
* `Registry.extend`, `Registry.loadModule`, `Registry.loadSuite`
-/

namespace SuitePool

open Text

/-! ## Suite code -/

/-- The process that suite code runs in. -/
structure Host where
  /-- The slot of the pool that the process works for, if it works for one. -/
  slot : Option String
  deriving DecidableEq

/-- What suite code does that writes an error as a text, or drops a value. -/
structure Aftermath where
  printed : Bytes := []
  /-- How long it takes, in nanoseconds. -/
  elapsed : Nat := 0
  ending : Ending Empty Unit := .finished ()

/-- What one piece of suite code does. -/
structure Act (ε α : Type) where
  printed : Bytes
  /-- How long it takes, in nanoseconds. -/
  elapsed : Nat
  ending : Ending ε α
  /-- What writing its error as a text does, if it fails. -/
  writing : Aftermath := {}
  /-- What dropping its error does, or the payload of its panic. -/
  dropping : Aftermath := {}

/-- An act of which nothing is seen but the ending. -/
def Act.ofEnding {ε α : Type} (e : Ending ε α) : Act ε α where
  printed := []
  elapsed := 0
  ending := e

/-- An error of suite code: its causes, the outermost first. -/
abbrev Failure := List String

/-- The text of an error, where it can be written. -/
def Failure.text (f : Failure) : String := ": ".intercalate f

/-- Code that acts on an instance and leaves it changed. -/
abbrev Body (σ : Type) := Host → σ → σ × Act Failure Unit

/-- What is seen of printing: nothing, if nothing is printed. -/
def printedEvents (bytes : Bytes) : List Event := if bytes = [] then [] else [.printed bytes]

/-- What is seen of a call of a hook. -/
def Act.run {ε α : Type} (module suite : String) (hook : Hook) (a : Act ε α) : Exec ε α :=
  ⟨.called module suite hook :: printedEvents a.printed, a.elapsed, a.ending⟩

/-- What is seen of code that nobody calls by name. -/
def Aftermath.run {ε : Type} (a : Aftermath) : Exec ε Unit :=
  (⟨printedEvents a.printed, a.elapsed, a.ending⟩ : Exec Empty Unit).mapError Empty.elim

/-- The same of an act. -/
def Act.unnamed {ε : Type} (a : Act Empty Unit) : Exec ε Unit :=
  Aftermath.run ⟨a.printed, a.elapsed, a.ending⟩

/-- **Writes the error of an act as a text**, and drops it.  If it cannot be written, it is dropped
while the panic passes. -/
def Act.writeError {ε φ α : Type} (a : Act φ α) : Exec ε Unit := do
  a.writing.run.cleanedBy a.dropping.run
  a.dropping.run

/-- **What is done about an act whose error or panic was caught**: the error is written as a text
and dropped, and the payload of the panic is dropped. -/
def Act.settle {ε φ α : Type} (a : Act φ α) : Exec ε Unit :=
  match a.ending with
  | .failed _ => a.writeError
  | .panicked _ => a.dropping.run
  | _ => pure ()

/-! ## Suites and modules -/

/-- A member of a suite whose instances are of type `σ`. -/
inductive Member (σ : Type) where
  /-- A method. -/
  | method (body : Body σ)
  /-- Something that cannot be called. -/
  | value
  /-- Something that yields a method when it is asked, or fails to. -/
  | getter (resolve : Host → Act Failure (Body σ))

/-- A suite. -/
structure Suite (σ : Type) where
  name : String
  /-- Is it only a base for other suites? -/
  isAbstract : Bool
  /-- Builds an instance; this cannot fail with an error. -/
  construct : Host → Act Empty σ
  /-- Prepares an instance for the body of a case. -/
  setUp : Body σ
  /-- Cleans up after the body of a case. -/
  tearDown : Body σ
  /-- Drops an instance; this cannot fail with an error. -/
  drop : Host → σ → Act Empty Unit := fun _ _ => .ofEnding (.finished ())
  /-- Its members with their names, in the order of registration. -/
  members : List (String × Member σ)

/-- An item of a module. -/
inductive Item (σ : Type) where
  | suite (s : Suite σ)
  /-- A class that is no suite. -/
  | plainClass (name : String)
  /-- Anything else. -/
  | value (name : String)

def Item.name {σ : Type} : Item σ → String
  | .suite s => s.name
  | .plainClass n => n
  | .value n => n

/-- A module. -/
structure Module (σ : Type) where
  /-- Its dotted name. -/
  name : String
  items : List (Item σ)

/-- The modules that can be loaded, and the directory of the package they belong to. -/
structure Registry (σ : Type) where
  /-- The directory of the package. -/
  root : Path
  /-- The modules; no two have the same name. -/
  modules : List (Module σ)

/-! ## Registering -/

variable {σ : Type}

/-- Adds items to the module with a name, which is made if there is none. -/
def extendModules (name : String) (items : List (Item σ)) : List (Module σ) → List (Module σ)
  | [] => [⟨name, items⟩]
  | m :: rest =>
    if m.name = name then ⟨name, m.items ++ items⟩ :: rest
    else m :: extendModules name items rest

namespace Registry

def empty (root : Path) : Registry σ := ⟨root, []⟩

/-- **Registers items of a module.** -/
def extend (r : Registry σ) (name : String) (items : List (Item σ)) : Registry σ :=
  { r with modules := extendModules name items r.modules }

/-! ## Loading -/

/-- **The module with a name.** -/
def loadModule (r : Registry σ) (name : String) : Except Error (Module σ) :=
  match r.modules.find? (fun m => m.name == name) with
  | some m => .ok m
  | none => .error (.moduleNotFound name)

/-- The first suite with a name among items. -/
def findSuite? (name : String) : List (Item σ) → Option (Suite σ)
  | [] => none
  | .suite s :: rest => if s.name = name then some s else findSuite? name rest
  | _ :: rest => findSuite? name rest

/-- **The suite with a dotted path**, and the name of its module. -/
def loadSuite (r : Registry σ) (path : String) : Except Error (String × Suite σ) :=
  match splitAtLastDot path with
  | none => .error (.invalidTestId path)
  | some (module, suite) => do
    let m ← r.loadModule module
    match findSuite? suite m.items with
    | some s => .ok (module, s)
    | none => .error (.suiteNotFound path)

end Registry

end SuitePool
