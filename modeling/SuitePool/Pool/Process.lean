import SuitePool.Reply
import SuitePool.Text.Line

/-!
# Worker processes as the pool sees them

A worker process takes lines and prints bytes.  The pool sends it one task at a time and reads the
bytes line by line up to the first line that holds a frame; lines before it are forwarded to the
pool's own error stream.  What follows the frame stays unread until the next task.  A process whose
loop is aborted complains on that error stream itself before it ends.

## Main definitions

* `WorkerProgram`, `Process`
* `Process.send`: one more line of input.
* `readReply`: the next reply in what was printed.
* `Notice`, `Process.notices`: what appears on the error stream.
-/

namespace SuitePool

open Text

/-- What a worker process does with one line of its input. -/
structure Response where
  /-- What it prints. -/
  printed : Bytes
  /-- Does it live on? -/
  survives : Bool
  /-- What it writes to the error stream, at its end. -/
  complaint : Option String

/-- The program that worker processes run, and how its frames are judged. -/
structure WorkerProgram where
  /-- Why no process can be started, if none can. -/
  refusal : Option WorkerError
  /-- What the process of a slot does with a line. -/
  respond : (slot : Nat) → (line : Bytes) → Response
  /-- What is said about a line of theirs with a frame that holds no reply. -/
  noReply : (line : List Char) → String

/-- A worker process. -/
structure Process where
  /-- What it has printed and the pool has not read. -/
  unread : Bytes
  /-- Does it live? -/
  alive : Bool
  /-- What it wrote to the error stream since the pool last read from it. -/
  complaint : Option String
  deriving DecidableEq

namespace Process

def fresh : Process := ⟨[], true, none⟩

/-- A process that was sent a line.  One that has ended does nothing. -/
def send (respond : Bytes → Response) (p : Process) (line : Bytes) : Process :=
  if p.alive then
    let response := respond line
    ⟨p.unread ++ response.printed, response.survives, response.complaint⟩
  else p

end Process

/-! ## Reading a reply -/

/-- What reading up to a frame comes to. -/
inductive ReadEnd where
  /-- The process may still print more. -/
  | waiting
  /-- The process has ended. -/
  | closed
  /-- A line with a frame that holds no reply. -/
  | malformed (line : List Char)
  /-- A reply, and what is unread behind it. -/
  | reply (r : Reply) (unread : Bytes)

/-- Is the character one of a line's end? -/
def endsLine (c : Char) : Bool := c == '\n' || c == '\r'

/-- A printed line as text, without its end. -/
def shownLine (line : Bytes) : List Char :=
  ((Utf8.decodeLossy line).reverse.dropWhile endsLine).reverse

/-- Is the line complete? -/
def isComplete (line : Bytes) : Bool := line.getLast? == some lineFeed

/-- **Reads up to the first frame**: the lines to be forwarded, and what reading comes to.  Blank
lines are not forwarded. -/
def readReply (alive : Bool) : Bytes → List String × ReadEnd
  | [] => ([], if alive then .waiting else .closed)
  | b :: bs =>
    let line := (cutLine (b :: bs)).1
    -- The end of a living process's line may still come.
    if alive && !isComplete line then ([], .waiting)
    else
      match Reply.decode (shownLine line) with
      | .malformed => ([], .malformed (shownLine line))
      | .reply r => ([], .reply r (cutLine (b :: bs)).2)
      | .text =>
        let (forwarded, ending) := readReply alive (cutLine (b :: bs)).2
        (if (shownLine line).isEmpty then forwarded
          else String.ofList (shownLine line) :: forwarded, ending)
termination_by bytes => bytes.length
decreasing_by
  have := cutLine_rest_length b bs
  simp only [List.length_cons]
  omega

/-! ## The error stream -/

/-- What appears on the error stream of the pool. -/
inductive Notice where
  /-- A line that the process of a slot printed beside its replies. -/
  | forwarded (slot : Nat) (line : String)
  /-- What a process wrote there itself. -/
  | complaint (text : String)
  deriving DecidableEq

def Notice.text : Notice → String
  | forwarded slot line => "[worker " ++ Decimal.text slot ++ "] " ++ line ++ "\n"
  | complaint text => text

/-- **What appears on the error stream while lines are read** from the process of a slot.  A last
line without an end is only read when the process has ended, so behind its complaint. -/
def Process.notices (p : Process) (slot : Nat) (lines : List String) : List Notice :=
  let early := (readReply true p.unread).1.length
  (lines.take early).map (.forwarded slot) ++ p.complaint.toList.map .complaint
    ++ (lines.drop early).map (.forwarded slot)

end SuitePool
