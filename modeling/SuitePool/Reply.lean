import SuitePool.Error
import SuitePool.Json.Reader
import SuitePool.Json.Record
import SuitePool.Json.Writer

/-!
# Replies

A worker process answers every task with one reply, written as one line of JSON behind a marker.
The marker tells the reply from whatever else is printed on the same stream.

## Main definitions

* `Reply`, `Reply.ofResult`, `Reply.result`
* `Reply.marker`, `Reply.frame`: a reply as it is written.
* `Reply.decode`: a reply as it is found in a line.
-/

namespace SuitePool

/-- The outcome of a task. -/
inductive Reply where
  /-- The task was done and has this value. -/
  | done (value : Json)
  /-- The task failed. -/
  | failed (kind : ErrorKind) (message : String)

def ErrorKind.toJson (k : ErrorKind) : Json := .string k.name

def ErrorKind.ofJson? (j : Json) : Option ErrorKind := do ofName? (← j.word?)

/-- Reads a class of errors inside a reply. -/
def ErrorKind.ofTaggedJson? (j : Json) : Option ErrorKind := do ofName? (← j.taggedWord?)

namespace Reply

/-- The reply that reports a result. -/
def ofResult {α : Type} (toJson : α → Json) : Except Error α → Reply
  | .ok a => .done (toJson a).normal
  | .error e => .failed e.kind e.message

/-- The result that a reply reports. -/
def result : Reply → Except Error Json
  | done value => .ok value
  | failed kind message => .error (.remote kind message)

def toJson : Reply → Json
  | done value => .object [("status", .string "done"), ("value", value)]
  | failed kind message =>
    .object [("status", .string "failed"), ("kind", kind.toJson), ("message", .string message)]

/-- Reads a reply.  Its value is kept in the stored form. -/
def ofJson? (j : Json) : Option Reply := do
  let (name, fields) ← j.variant? "status"
  if name = "done" then
    let [value] ← fields.fields? ["value"] | none
    some (.done value.normal)
  else if name = "failed" then
    let [kind, message] ← fields.fields? ["kind", "message"] | none
    some (.failed (← ErrorKind.ofTaggedJson? kind) (← message.string?))
  else none

/-! ## Frames -/

/-- What a frame starts with: a record separator, and words. -/
def marker : List Char := '\x1e' :: "test-fleet-reply:".toList

/-- **A reply as it is written**, without the end of its line. -/
def frame (r : Reply) : List Char := marker ++ r.toJson.write

/-- What follows the first occurrence of a list in another. -/
def afterFirst (word : List Char) : List Char → Option (List Char)
  | [] => if word.isEmpty then some [] else none
  | c :: cs =>
    if word.isPrefixOf (c :: cs) then some ((c :: cs).drop word.length) else afterFirst word cs

/-- What a line holds. -/
inductive Found where
  /-- No marker. -/
  | text
  /-- A marker, but a text behind it that holds no reply. -/
  | malformed
  /-- A reply. -/
  | reply (r : Reply)

/-- **The reply in a line.**  Other text may precede the marker. -/
def decode (line : List Char) : Found :=
  match afterFirst marker line with
  | none => .text
  | some rest =>
    match (Json.parse? rest).bind ofJson? with
    | none => .malformed
    | some r => .reply r

end Reply

end SuitePool
