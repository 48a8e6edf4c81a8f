import SuitePool.Decimal.Digits
import SuitePool.Path

/-!
# The command line

A command line names one of four commands.  Three of them share options and take any number of
paths; the fourth, for worker processes, takes nothing.  The language may be given before or behind
the name of the command.

Arguments are read from left to right and the first thing that is wrong decides, unless help or the
version is asked for earlier.  An option takes its value from the same argument or from the next
one, which must not look like an option.  Behind `--` every argument is a path.

Messages may have to be written before the command line is understood, so the language is also
looked up in advance, in the plainest form only.

## Main definitions

* `Command`, `CommandLine.parse`
* `CommandLine.languageInAdvance?`
-/

namespace SuitePool

open Decimal

/-- The options that finding, discovering and running share. -/
structure Options where
  language : Option String
  paths : List Path
  config : Option Path
  /-- The wildcard for the names of suite files. -/
  pattern : Option String
  /-- The roots that suite files are named relative to. -/
  modulePath : List Path
  /-- How many worker processes to use. -/
  workers : Option Nat
  forked : Bool
  sequential : Bool
  deriving DecidableEq

def Options.none : Options := ⟨.none, [], .none, .none, [], .none, false, false⟩

/-- The name of a command. -/
inductive Verb where
  /-- Lists suite files. -/
  | find
  /-- Lists test ids. -/
  | discover
  /-- Runs tests. -/
  | run
  /-- Serves a pool. -/
  | worker
  deriving DecidableEq

/-- A command. -/
structure Command where
  verb : Verb
  options : Options
  deriving DecidableEq

namespace CommandLine

/-- Why there is no command. -/
inductive Refusal where
  | help
  | version
  | usage
  deriving DecidableEq

/-! ## Options -/

/-- An option. -/
inductive Opt where
  | language
  | config
  | pattern
  | modulePath
  | workers
  | forked
  | sequential
  | help
  | version
  deriving DecidableEq

/-- The long names of options. -/
def longNames : List (String × Opt) :=
  [("lang", .language), ("config", .config), ("pattern", .pattern), ("module-path", .modulePath),
    ("workers", .workers), ("forked", .forked), ("sequential", .sequential), ("help", .help),
    ("version", .version)]

/-- The short names of options. -/
def shortNames : List (Char × Opt) :=
  [('c', .config), ('j', .workers), ('h', .help), ('V', .version)]

/-- Does an option take a value? -/
def Opt.takesValue : Opt → Bool
  | language | config | pattern | modulePath | workers => true
  | _ => false

/-- The place where an option may stand: before the name of a command, or behind it. -/
abbrev Level := Option Verb

/-- Does an option exist at a place? -/
def Opt.allowedAt (o : Opt) : Level → Bool
  | none => o == .language || o == .help || o == .version
  | some .worker => o == .language || o == .help
  | some .find => o != .version && o != .forked && o != .sequential
  | some .discover => o != .version && o != .sequential
  | some .run => o != .version && o != .forked

/-- The option with a long name. -/
def longOption? (level : Level) (name : List Char) : Option Opt :=
  (longNames.find? fun n => n.1.toList == name && n.2.allowedAt level).map (·.2)

/-- The option with a short name. -/
def shortOption? (level : Level) (name : Char) : Option Opt :=
  (shortNames.find? fun n => n.1 == name && n.2.allowedAt level).map (·.2)

/-! ## Values -/

/-- A path; it must not be empty. -/
def path? (s : String) : Option Path := if s.isEmpty then none else some (.ofString s)

/-- The greatest number of worker processes. -/
def greatestWorkers : Nat := UInt64.size - 1

/-- A number of worker processes, perhaps with a plus sign. -/
def workers? (s : String) : Option Nat :=
  let ds :=
    match s.toList with
    | '+' :: ds => ds
    | ds => ds
  if ds ≠ [] ∧ ds.all isDigit ∧ 1 ≤ ofDigits ds ∧ ofDigits ds ≤ greatestWorkers then
    some (ofDigits ds)
  else none

/-- A value for an option that has none. -/
def once {α : Type} (old : Option α) (new : Option α) : Except Refusal (Option α) :=
  match old, new with
  | none, some a => .ok (some a)
  | _, _ => .error .usage

/-- Sets an option that takes a value. -/
def setValue (o : Options) (s : String) : Opt → Except Refusal Options
  | .language => (once o.language (some s)).map fun v => { o with language := v }
  | .config => (once o.config (path? s)).map fun v => { o with config := v }
  | .pattern => (once o.pattern (some s)).map fun v => { o with pattern := v }
  | .workers => (once o.workers (workers? s)).map fun v => { o with workers := v }
  | .modulePath =>
    match path? s with
    | some p => .ok { o with modulePath := o.modulePath ++ [p] }
    | none => .error .usage
  | _ => .error .usage

/-- Sets an option that takes no value. -/
def setFlag (o : Options) : Opt → Except Refusal Options
  | .forked => if o.forked then .error .usage else .ok { o with forked := true }
  | .sequential => if o.sequential then .error .usage else .ok { o with sequential := true }
  | .help => .error .help
  | .version => .error .version
  | _ => .error .usage

/-- Adds a path. -/
def addPath (level : Level) (o : Options) (s : String) : Except Refusal Options :=
  match level, path? s with
  | none, _ | some .worker, _ | _, none => .error .usage
  | _, some p => .ok { o with paths := o.paths ++ [p] }

/-! ## Arguments -/

/-- What an argument is, by its look. -/
inductive Look where
  /-- The mark behind which everything is a path. -/
  | escape
  /-- A long name, and the value behind its equals sign. -/
  | long (name : List Char) (value : Option String)
  /-- Short names. -/
  | short (names : List Char)
  /-- A word. -/
  | word (s : String)
  deriving DecidableEq

/-- The look of an argument. -/
def look (s : String) : Look :=
  match s.toList with
  | ['-', '-'] => .escape
  | '-' :: '-' :: cs =>
    match cs.dropWhile (· != '=') with
    | [] => .long cs none
    | _ :: value => .long (cs.takeWhile (· != '=')) (some (String.ofList value))
  | '-' :: c :: cs => .short (c :: cs)
  | _ => .word s

/-- What follows an argument. -/
inductive Next where
  /-- Anything. -/
  | ready
  /-- The value of an option. -/
  | valueOf (o : Opt)

/-- Reads a long option. -/
def readLong (level : Level) (o : Options) (name : List Char) (value : Option String) :
    Except Refusal (Options × Next) :=
  match longOption? level name, value with
  | none, _ => .error .usage
  | some opt, some v =>
    if opt.takesValue then (setValue o v opt).map (·, .ready) else .error .usage
  | some opt, none =>
    if opt.takesValue then .ok (o, .valueOf opt) else (setFlag o opt).map (·, .ready)

/-- Reads short options.  The first one that takes a value takes the rest, without an equals sign
before it. -/
def readShort (level : Level) (o : Options) : List Char → Except Refusal (Options × Next)
  | [] => .ok (o, .ready)
  | c :: cs =>
    match shortOption? level c with
    | none => .error .usage
    | some opt =>
      if opt.takesValue then
        match cs with
        | [] => .ok (o, .valueOf opt)
        -- One equals sign before the value is not part of it.
        | '=' :: value => (setValue o (String.ofList value) opt).map (·, .ready)
        | value => (setValue o (String.ofList value) opt).map (·, .ready)
      else do
        let o ← setFlag o opt
        readShort level o cs

/-- Reads arguments behind the name of a command. -/
def readArguments (verb : Verb) (o : Options) : List String → Next → Except Refusal Options
  | [], .ready => .ok o
  | [], .valueOf _ => .error .usage
  | s :: rest, next =>
    match look s, next with
    | .escape, .ready => rest.foldlM (addPath (some verb)) o
    | .escape, .valueOf _ => .error .usage
    | .long name value, .ready => do
      let (o, next) ← readLong (some verb) o name value
      readArguments verb o rest next
    | .short names, .ready => do
      let (o, next) ← readShort (some verb) o names
      readArguments verb o rest next
    | .word s, .ready => do
      let o ← addPath (some verb) o s
      readArguments verb o rest .ready
    | .word s, .valueOf opt => do
      let o ← setValue o s opt
      readArguments verb o rest .ready
    | _, .valueOf _ => .error .usage

/-- The names of commands. -/
def verbs : List (String × Verb) :=
  [("find", .find), ("discover", .discover), ("run", .run), ("worker", .worker)]

/-- The command with a name. -/
def verb? (s : String) : Option Verb := (verbs.find? fun v => v.1 == s).map (·.2)

/-- What a request for help about commands comes to; only commands can be asked about, and they have
no commands of their own. -/
def helpAbout : List String → Refusal
  | [] => .help
  | [s] => if s = "help" ∨ (verb? s).isSome then .help else .usage
  | _ => .usage

/-- Reads arguments up to the name of a command.  A value in an argument of its own is put in place
when the next option is met: a second language right before the name of a command is refused only
behind the arguments of the command, so that help may be asked for there. -/
def readTop (o : Except Refusal Options) : List String → Next → Except Refusal Command
  | [], _ => .error .usage
  | s :: rest, next =>
    match look s, next with
    | .long name value, .ready => do
      let (o, next) ← readLong none (← o) name value
      readTop (.ok o) rest next
    | .short names, .ready => do
      let (o, next) ← readShort none (← o) names
      readTop (.ok o) rest next
    | .word s, .ready =>
      match verb? s with
      | some verb => do
        let inner ← readArguments verb .none rest .ready
        let outer ← o
        .ok ⟨verb, { inner with language := inner.language <|> outer.language }⟩
      | none => .error (if s = "help" then helpAbout rest else .usage)
    | .word s, .valueOf opt => readTop (o.bind fun o => setValue o s opt) rest .ready
    | _, _ => .error .usage

/-- **The command that arguments ask for.** -/
def parse (arguments : List String) : Except Refusal Command := readTop (.ok .none) arguments .ready

/-- **The language looked up in advance**: the argument behind the first one that is `--lang`. -/
def languageInAdvance? : List String → Option String
  | [] => none
  | s :: rest => if s = "--lang" then rest.head? else languageInAdvance? rest

end CommandLine

end SuitePool
