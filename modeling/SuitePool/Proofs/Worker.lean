import Mathlib.Data.List.Basic
import Mathlib.Tactic.Common
import SuitePool.Proofs.Wire.Framing
import SuitePool.Session

/-!
# What a worker process answers

A worker process that is sent the line of a task does the task.  It prints what suite code prints
meanwhile and, if the task came to a reply, the reply's frame on a line of its own; a task that
comes to no reply ends the process.  If suite code prints no marker the pool reads exactly this
reply, and nothing is left unread behind it: the process is as good as new.

## Main definitions

* `Site.forSlot`: where the worker process of a slot works.
* `Task.reply?`, `Task.printed`: what a task comes to, and what is printed meanwhile.
* `Task.IsQuiet`: a task during which no marker is printed.
* `Task.IsReadFrom`: a line that is read as a task.
* `Request`, `Request.ofLine`: what a line of a worker's input asks for.
* `Process.reading`: what reading from a process comes to.

## Main results

* `Task.isReadFrom_write`: the text of a task is read as this task.
* `workerResponse_printed`, `workerResponse_survives`: the response to the line of a task.
* `reading_send_of_isQuiet`: what is read of a new process that was sent a quiet task.
-/

namespace SuitePool

open Text

variable {σ : Type}

/-! ## Doing a task -/

/-- The value of code that finished. -/
def Ending.value? {ε α : Type} : Ending ε α → Option α
  | finished a => some a
  | _ => none

/-- The process of a slot, as its suites see it. -/
def Host.ofSlot (slot : Nat) : Host := ⟨some (Decimal.text slot)⟩

/-- **Where the worker process of a slot works.** -/
def Site.forSlot (site : Site σ) (slot : Nat) : Site σ := { site with host := .ofSlot slot }

namespace Task

/-- What is seen of a task that is done. -/
def run (site : Site σ) (t : Task) : Exec ServeError Reply := t.execute site

/-- **What a task comes to**; nothing if it ends the process. -/
def reply? (site : Site σ) (t : Task) : Option Reply := (t.run site).ending.value?

/-- **What is printed during a task.** -/
def printed (site : Site σ) (t : Task) : Bytes := printedBytes (t.run site).events

/-- **Is no marker printed during the task?** -/
def IsQuiet (site : Site σ) (t : Task) : Prop := Unmarked (t.printed site)

instance (site : Site σ) (t : Task) : Decidable (t.IsQuiet site) :=
  inferInstanceAs (Decidable (Unmarked _))

theorem finished_of_reply? {site : Site σ} {t : Task} {r : Reply} (h : t.reply? site = some r) :
    (t.run site).ending = .finished r := by
  rw [reply?] at h
  cases he : (t.run site).ending <;> rw [he] at h <;> simp_all [Ending.value?]

theorem isStored_of_reply? {site : Site σ} {t : Task} {r : Reply} (h : t.reply? site = some r) :
    r.IsStored :=
  isStored_of_execute (finished_of_reply? h)

/-- **What a run of ids comes to**: its report, or its error. -/
theorem reply?_runTestIds (site : Site σ) (ids : List TestId) :
    (runTestIds ids).reply? site =
      match (site.registry.runIds site.host ids).ending with
      | .finished report => some (.done report.stored)
      | .failed e => some (.failed e.kind e.message)
      | _ => none := by
  simp only [reply?, run, execute, bind, Exec.bind, Exec.attempt, pure, Exec.ofEnding]
  cases (site.registry.runIds site.host ids).ending <;>
    simp [Ending.value?, Reply.ofResult, Report.normal_toJson]

/-- **What the discovery of a file comes to**: its ids, or its error. -/
theorem reply?_discoverFile (site : Site σ) (file : Path) (modulePath : List Path) :
    (discoverFile file modulePath).reply? site =
      match (site.registry.discoverFile site.tree site.host modulePath file).ending with
      | .finished ids => some (.done (.array (ids.map TestId.toJson)))
      | .failed e => some (.failed e.kind e.message)
      | _ => none := by
  simp only [reply?, run, execute, bind, Exec.bind, Exec.attempt, pure, Exec.ofEnding]
  cases (site.registry.discoverFile site.tree site.host modulePath file).ending <;>
    simp [Ending.value?, Reply.ofResult, Json.normal_array_map TestId.normal_toJson]

end Task

/-! ## The response to a line -/

/-- What is printed behind a reply: its frame on a line of its own. -/
def Reply.line (r : Reply) : Bytes := lineFeed :: (r.frameBytes ++ [lineFeed])

/-- The text of a task starts with a brace. -/
theorem Task.exists_write_eq_cons (t : Task) : ∃ cs, t.toJson.write = '{' :: cs := by
  cases t <;> exact ⟨_, rfl⟩

/-- The text of a task is not blank. -/
theorem Task.all_isBlank_write (t : Task) : t.toJson.write.all isBlank = false := by
  obtain ⟨cs, hcs⟩ := t.exists_write_eq_cons
  rw [hcs, List.all_cons, show isBlank '{' = false by decide, Bool.false_and]

/-- The text of a task holds no control character. -/
theorem Task.not_mem_write {c : Char} (hc : c.toNat < 0x20) (t : Task) : c ∉ t.toJson.write :=
  fun h => absurd (Json.le_of_mem_write t.isWhole_toJson h) (Nat.not_le.2 hc)

/-- **Is the task read from the line?**  The line is text, it is not blank, and the text holds the
task. -/
def Task.IsReadFrom (t : Task) (line : Bytes) : Prop :=
  ∃ cs, Utf8.decode? line = some cs ∧ cs.all isBlank = false ∧ parse? cs = some t

/-- **The text of a task is read as this task.** -/
theorem Task.isReadFrom_write {t : Task} (h : t.IsWritable) :
    t.IsReadFrom (Utf8.encode t.toJson.write) :=
  ⟨_, Utf8.decode?_encode _, t.all_isBlank_write, parse?_write_toJson h⟩

/-- What a line of a worker's input asks for. -/
inductive Request where
  /-- The line is not UTF-8. -/
  | unreadable
  /-- It asks for nothing. -/
  | blank
  /-- It is a text that holds no task. -/
  | malformed (text : List Char)
  /-- It asks for a task to be done. -/
  | task (t : Task)
  deriving DecidableEq

namespace Request

/-- **What a line asks for.** -/
def ofLine (line : Bytes) : Request :=
  match Utf8.decode? line with
  | none => .unreadable
  | some cs =>
    if cs.all isBlank then .blank
    else
      match Task.parse? cs with
      | none => .malformed cs
      | some t => .task t

/-- What a request is answered with. -/
def answer [Wording] (site : Site σ) : Request → Exec ServeError (Option Reply)
  | unreadable => .fail .unreadable
  | blank => pure none
  | malformed text => pure (some (malformedTask text))
  | task t => t.run site >>= fun r => pure (some r)

theorem answerLine_eq [Wording] (site : Site σ) (line : Bytes) :
    answerLine site line = (ofLine (taskLine line)).answer site := by
  rw [answerLine, ofLine]
  cases Utf8.decode? (taskLine line) with
  | none => rfl
  | some cs =>
    dsimp only
    split_ifs
    · rfl
    · cases Task.parse? cs <;> rfl

theorem ofLine_of_isReadFrom {t : Task} {line : Bytes} (h : t.IsReadFrom line) :
    ofLine line = .task t := by
  obtain ⟨cs, hcs, hb, hp⟩ := h
  simp only [ofLine, hcs, hb, Bool.false_eq_true, if_false, hp]

/-- The line of a task asks for this task. -/
theorem ofLine_task {t : Task} (h : t.IsWritable) :
    ofLine (taskLine (Utf8.encode (t.toJson.write ++ ['\n']))) = .task t := by
  -- The text has no carriage return that would be cut off.
  rw [taskLine_encode (t.not_mem_write (by decide))]
  exact ofLine_of_isReadFrom (Task.isReadFrom_write h)

end Request

/-- **The line of a task is answered by the task's reply.** -/
theorem answerLine_task [Wording] (site : Site σ) {t : Task} (h : t.IsWritable) :
    answerLine site (Utf8.encode (t.toJson.write ++ ['\n'])) =
      t.run site >>= fun r => pure (some r) := by
  rw [Request.answerLine_eq, Request.ofLine_task h]
  rfl

/-- A reply is written on a line of its own. -/
theorem sendReply_open (r : Reply) :
    sendReply .open [] r =
      ⟨[.wrote [lineFeed], .wrote r.frameBytes, .wrote [lineFeed]], 0, .finished r.line⟩ := by
  rfl

/-- A line with a task is served by doing the task. -/
theorem serveLine_task [Wording] (site : Site σ) {t : Task} (h : t.IsWritable) :
    serveLine site .open [] (Utf8.encode (t.toJson.write ++ ['\n'])) =
      t.run site >>= fun r => sendReply .open [] r := by
  rw [serveLine, answerLine_task site h, Exec.bind_assoc]
  simp only [Exec.pure_bind]

variable (processors : Nat) (site : Site σ) (slot : Nat)

/-- **What is printed in response to a task**: what suite code prints, and the reply. -/
theorem workerResponse_printed [Wording] {t : Task} (h : t.IsWritable) {line : Bytes}
    (hl : t.line? = some line) :
    (workerResponse processors site slot line).printed =
      t.printed (site.forSlot slot) ++ ((t.reply? (site.forSlot slot)).map Reply.line).getD [] := by
  rw [Task.line?_of_isWritable h, Option.some.injEq] at hl
  subst hl
  show printedBytes (serveLine (site.forSlot slot) .open [] _).events = _
  rw [serveLine_task _ h, Task.printed, Task.reply?]
  -- Only a task that finishes is followed by a reply.
  simp only [bind, Exec.bind, sendReply_open]
  cases (t.run (site.forSlot slot)).ending with
  | finished r => simp [printedBytes, Ending.value?, Reply.line]
  | failed | panicked | exited => simp [Ending.value?]

/-- **A process survives a task exactly if the task comes to a reply.** -/
theorem workerResponse_survives [Wording] {t : Task} (h : t.IsWritable) {line : Bytes}
    (hl : t.line? = some line) :
    (workerResponse processors site slot line).survives =
      (t.reply? (site.forSlot slot)).isSome := by
  rw [Task.line?_of_isWritable h, Option.some.injEq] at hl
  subst hl
  show (serveLine (site.forSlot slot) .open [] _).ending.isFinished = _
  rw [serveLine_task _ h, Task.reply?]
  simp only [bind, Exec.bind, sendReply_open]
  cases (t.run (site.forSlot slot)).ending <;> rfl

/-! ## Reading the answer -/

/-- What reading from a process comes to. -/
def Process.reading (p : Process) : ReadEnd := (readReply p.alive p.unread).2

/-- What reading comes to when a process has answered a task, or has ended. -/
def Task.readEnd (site : Site σ) (t : Task) : ReadEnd :=
  match t.reply? site with
  | some r => .reply r []
  | none => .closed

/-- **A new process that was sent a quiet task** gives the task's reply and has nothing else to
say, or has ended without a reply. -/
theorem reading_send_of_isQuiet [Wording] {t : Task} (h : t.IsWritable) {line : Bytes}
    (hl : t.line? = some line) (hq : t.IsQuiet (site.forSlot slot)) :
    (Process.fresh.send (workerResponse processors site slot) line).reading =
      t.readEnd (site.forSlot slot) := by
  simp only [Process.send, Process.fresh, if_true, List.nil_append, Process.reading,
    workerResponse_printed processors site slot h hl,
    workerResponse_survives processors site slot h hl, Task.readEnd]
  -- A reply's frame is read behind what was printed; without a reply the stream ends there.
  cases hr : t.reply? (site.forSlot slot) with
  | none => simpa using readReply_closed hq
  | some r => simpa [Reply.line] using readReply_answer hq (Task.isStored_of_reply? hr) true []

end SuitePool
