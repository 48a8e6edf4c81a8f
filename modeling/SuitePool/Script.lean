import SuitePool.Decimal.Digits
import SuitePool.Registry

/-!
# Scripted suites

A scripted suite says in data what its hooks do: every hook is a list of actions on a counter that
belongs to the instance.  The first action that does not succeed ends the list.

## Main definitions

* `Action`, `Action.run`
* `Script`, `runScript`
* `SuiteScript.suite`: the suite that a description stands for.
-/

namespace SuitePool

open Text Decimal

/-- An action of a hook. -/
inductive Action where
  /-- Adds to the counter. -/
  | add (n : Int)
  /-- Fails unless the counter has a value. -/
  | expect (n : Int)
  /-- Fails with a chain of causes. -/
  | fail (causes : List String)
  /-- Panics, with a text or without one. -/
  | panic (message : Option String)
  /-- Prints. -/
  | print (bytes : Bytes)
  /-- Ends the process, if it works for a pool. -/
  | exit (code : UInt8)
  deriving DecidableEq

/-- A list of actions. -/
abbrev Script := List Action

def intText (i : Int) : String := String.ofList (intDigits i)

/-- What an action makes of the counter, what it prints, and how it ends. -/
def Action.run (host : Host) (counter : Int) : Action → Int × Bytes × Ending Failure Unit
  | add n => (counter + n, [], .finished ())
  | expect n =>
    if counter = n then (counter, [], .finished ())
    else
      (counter, [],
        .failed ["counter is " ++ intText counter ++ ", expected " ++ intText n])
  | fail causes => (counter, [], .failed causes)
  | panic message => (counter, [], .panicked message)
  | print bytes => (counter, bytes, .finished ())
  | exit code =>
    match host.slot with
    | some _ => (counter, [], .exited code)
    | none => (counter, [], .failed ["not running inside a worker process"])

/-- **Runs a script** on a counter. -/
def runScript (host : Host) : Script → Int → Int × Act Failure Unit
  | [], counter => (counter, .ofEnding (.finished ()))
  | a :: rest, counter =>
    match a.run host counter with
    | (counter, bytes, .finished ()) =>
      let (counter, act) := runScript host rest counter
      (counter, { act with printed := bytes ++ act.printed })
    | (counter, bytes, ending) => (counter, { Act.ofEnding ending with printed := bytes })

/-- The body that a script stands for. -/
def Script.body (s : Script) : Body Int := fun host counter => runScript host s counter

/-- The constructor that a script stands for.  A constructor cannot fail, so a failing script
panics. -/
def Script.construct (s : Script) (host : Host) : Act Empty Int :=
  let (counter, act) := runScript host s 0
  { printed := act.printed
    elapsed := act.elapsed
    ending :=
      match act.ending with
      | .finished () => .finished counter
      | .failed f => .panicked (some f.text)
      | .panicked m => .panicked m
      | .exited c => .exited c }

/-- The getter that a script and the body it yields stand for. -/
def Script.getter (s body : Script) (host : Host) : Act Failure (Body Int) :=
  let act := (runScript host s 0).2
  { printed := act.printed
    elapsed := act.elapsed
    ending :=
      match act.ending with
      | .finished () => .finished body.body
      | .failed f => .failed f
      | .panicked m => .panicked m
      | .exited c => .exited c }

/-- A member of a scripted suite. -/
inductive MemberScript where
  | method (body : Script)
  | value
  | getter (resolve body : Script)

def MemberScript.member : MemberScript → Member Int
  | method body => .method body.body
  | value => .value
  | getter resolve body => .getter (Script.getter resolve body)

/-- The description of a suite. -/
structure SuiteScript where
  name : String
  isAbstract : Bool
  construct : Script
  setUp : Script
  tearDown : Script
  members : List (String × MemberScript)

/-- **The suite that a description stands for.** -/
def SuiteScript.suite (s : SuiteScript) : Suite Int where
  name := s.name
  isAbstract := s.isAbstract
  construct := Script.construct s.construct
  setUp := s.setUp.body
  tearDown := s.tearDown.body
  members := s.members.map fun m => (m.1, m.2.member)

end SuitePool
