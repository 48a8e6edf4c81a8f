import SuitePool.Discovery
import SuitePool.Reply
import SuitePool.Run
import SuitePool.Task
import SuitePool.Text.CharClass
import SuitePool.Text.Line
import SuitePool.Wording

/-!
# The worker loop

A worker process reads tasks, one on each line, and answers every task with one frame, written
between two line feeds.  Blank lines are skipped, and a line that holds no task is answered too.
The loop ends with its input, at a line that is not UTF-8, or when a frame cannot be written.

## Main definitions

* `Site`, `Task.execute`: doing a task.
* `answerLine`: what is answered to a line.
* `Sink`, `sendReply`, `serve`
* `complaint?`: what a process says whose loop was stopped.
-/

namespace SuitePool

open Text

variable {σ ε : Type}

/-! ## Doing a task -/

/-- Where tasks are done. -/
structure Site (σ : Type) where
  registry : Registry σ
  tree : FileTree
  host : Host

/-- **Does a task**; its errors become a reply, too. -/
def Task.execute (site : Site σ) : Task → Exec ε Reply
  | .discoverFile file modulePath => do
    let ids ← (site.registry.discoverFile site.tree site.host modulePath file).attempt
    pure (Reply.ofResult (fun ids => .array (ids.map TestId.toJson)) ids)
  | .runTestIds ids => do
    let report ← (site.registry.runIds site.host ids).attempt
    pure (Reply.ofResult Report.toJson report)

/-! ## Answering a line -/

/-- Why the loop stops before the end of its input. -/
inductive ServeError where
  /-- A line is not UTF-8. -/
  | unreadable
  /-- A frame could not be written. -/
  | unwritten (cause : String)
  /-- A frame could not be flushed. -/
  | unflushed (cause : String)
  deriving DecidableEq

def ServeError.message : ServeError → String
  | unreadable => "failed to read task: " ++ FileError.notUtf8.message
  | unwritten cause => "failed to write reply: " ++ cause
  | unflushed cause => "failed to flush reply: " ++ cause

/-- The reply to a line that holds no task. -/
def malformedTask [Wording] (line : List Char) : Reply :=
  .failed .worker ("malformed task: " ++ Wording.noTask line)

/-- **The answer to a line**: none to a blank one. -/
def answerLine [Wording] (site : Site σ) (line : Bytes) : Exec ServeError (Option Reply) :=
  match Utf8.decode? (taskLine line) with
  | none => .fail .unreadable
  | some cs =>
    if cs.all isBlank then pure none
    else
      match Task.parse? cs with
      | none => pure (some (malformedTask cs))
      | some task => do
        let reply ← task.execute site
        pure (some reply)

/-! ## The loop -/

/-- A stream that may refuse what is written to it, depending on what it has taken before. -/
structure Sink where
  /-- Why it refuses to take more bytes, if it does. -/
  refusesWrite : (taken more : Bytes) → Option String
  /-- Why it refuses to be flushed, if it does. -/
  refusesFlush : (taken : Bytes) → Option String

def Sink.open : Sink := ⟨fun _ _ => none, fun _ => none⟩

/-- Writes bytes behind those already taken. -/
def Sink.write (sink : Sink) (taken more : Bytes) : Exec ServeError Bytes :=
  match sink.refusesWrite taken more with
  | some cause => .fail (.unwritten cause)
  | none => do
    Exec.emit (.wrote more)
    pure (taken ++ more)

/-- The frame of a reply as bytes. -/
def Reply.frameBytes (r : Reply) : Bytes := Utf8.encode r.frame

/-- Writes the frame of a reply on a line of its own. -/
def sendReply (sink : Sink) (taken : Bytes) (r : Reply) : Exec ServeError Bytes := do
  let taken ← sink.write taken [lineFeed]
  let taken ← sink.write taken r.frameBytes
  let taken ← sink.write taken [lineFeed]
  match sink.refusesFlush taken with
  | some cause => .fail (.unflushed cause)
  | none => pure taken

/-- Answers one line. -/
def serveLine [Wording] (site : Site σ) (sink : Sink) (taken line : Bytes) :
    Exec ServeError Bytes := do
  match ← answerLine site line with
  | none => pure taken
  | some r => sendReply sink taken r

/-- **The worker loop** over a whole input; its value is everything that was written. -/
def serve [Wording] (site : Site σ) (sink : Sink) (input : Bytes) : Exec ServeError Bytes :=
  (byteLines input).foldlM (serveLine site sink) []

/-! ## A loop that was stopped -/

/-- The line that reports why a process failed. -/
def errorLine (text : String) : String := "Error: " ++ text ++ "\n"

/-- The number of the loop among the tasks of its process, which come one for each processor before
it. -/
def loopNumber (processors : Nat) : Nat := processors + 1

/-- The text of a loop that panicked. -/
def abortText (processors : Nat) (message : Option String) : String :=
  let panicked :=
    "worker loop aborted: task " ++ Decimal.text (loopNumber processors) ++ " panicked"
  match message with
  | some m => panicked ++ " with message " ++ quote (utf8 m)
  | none => panicked

/-- **What a process says whose loop did not come to its end**, unless suite code ended it. -/
def complaint? {α : Type} (processors : Nat) : Ending ServeError α → Option String
  | .failed e => some (errorLine e.message)
  | .panicked m => some (errorLine (abortText processors m))
  | _ => none

end SuitePool
