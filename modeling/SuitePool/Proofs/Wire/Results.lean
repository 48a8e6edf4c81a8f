import Mathlib.Data.List.Basic
import Mathlib.Tactic.Common
import SuitePool.Pool.Schedule
import SuitePool.Proofs.Wire.Framing

/-!
# Results between processes

The result of a task is made into a reply, the reply is written as a frame, the frame is found in a
line and read, and the value of the reply is read as what the caller expects.  Ids arrive as they
were sent, and so does a report, except that its duration is cut to whole milliseconds.  An error
arrives as one that a worker process reported, of the same class and with its text as its message.

## Main definitions

* `delivered?`: a result as it arrives.

## Main results

* `delivered?_of_isStored`: a result whose reply is stored arrives as the caller reads the reply.
* `delivered?_report`, `delivered?_ids`, `delivered?_error`: what arrives of a result.
* `results_delivered`: results arrive by value.
-/

namespace SuitePool

variable {α : Type} {toJson : α → Json} {read : Json → Except String α}

/-- **A result as it arrives** in the process that asked for it; nothing if there is no reply in the
line that was written for it. -/
def delivered? (toJson : α → Json) (read : Json → Except String α) (result : Except Error α) :
    Option (Except Error α) :=
  match Reply.decode (Reply.ofResult toJson result).frame with
  | .reply r => some (Crew.readAnswer read r.result)
  | _ => none

/-- A result whose reply is stored arrives as the caller reads the reply. -/
theorem delivered?_of_isStored {result : Except Error α}
    (h : (Reply.ofResult toJson result).IsStored) :
    delivered? toJson read result =
      some (Crew.readAnswer read (Reply.ofResult toJson result).result) := by
  rw [delivered?, Reply.decode_frame h]

/-- **A report arrives with its duration in whole milliseconds.** -/
theorem delivered?_report [Wording] (r : Report) :
    delivered? Report.toJson Crew.readReport (.ok r) = some (.ok r.received) := by
  rw [delivered?_of_isStored (Reply.isStored_ofReport (.ok r)), Reply.ofResult,
    Report.normal_toJson, Reply.result, Crew.readAnswer, Crew.readReport_stored]

/-- **Ids arrive unchanged.** -/
theorem delivered?_ids [Wording] (ids : List TestId) :
    delivered? (fun ids => .array (ids.map TestId.toJson)) Crew.readIds (.ok ids) =
      some (.ok ids) := by
  rw [delivered?_of_isStored (Reply.isStored_ofIds (.ok ids)), Reply.ofResult,
    Json.normal_array_map TestId.normal_toJson, Reply.result, Crew.readAnswer, Crew.readIds_toJson]

/-- **An error arrives with its class and its text**, whatever was asked for. -/
theorem delivered?_error (e : Error) :
    delivered? toJson read (.error e) = some (.error (.remote e.kind e.message)) :=
  delivered?_of_isStored trivial

/-- **Results arrive by value.**  Whatever its counts, ids and messages are, a report arrives with
its duration in whole milliseconds modulo `2 ^ 64` and otherwise unchanged, and what arrived arrives
unchanged when it is sent on; ids arrive unchanged; an error arrives as a remote one of its class,
with its text as the message. -/
theorem results_delivered [Wording] :
    (∀ r : Report, ∃ s,
      delivered? Report.toJson Crew.readReport (.ok r) = some (.ok s) ∧
      s.testsRun = r.testsRun ∧ s.failures = r.failures ∧ s.errors = r.errors ∧
      s.duration = r.duration / 1000000 % UInt64.size * 1000000 ∧
      delivered? Report.toJson Crew.readReport (.ok s) = some (.ok s)) ∧
    (∀ ids : List TestId,
      delivered? (fun ids => .array (ids.map TestId.toJson)) Crew.readIds (.ok ids) =
        some (.ok ids)) ∧
    ∀ {α : Type} (toJson : α → Json) (read : Json → Except String α) (e : Error),
      delivered? toJson read (.error e) = some (.error (.remote e.kind e.message)) ∧
      (Error.remote e.kind e.message).kind = e.kind := by
  refine ⟨?_, delivered?_ids, ?_⟩
  · intro r
    refine ⟨r.received, delivered?_report r, rfl, rfl, rfl, rfl, ?_⟩
    rw [delivered?_report, Report.received_received]
  · intro α toJson read e
    exact ⟨delivered?_error e, rfl⟩

end SuitePool
