import Mathlib.Data.List.Basic
import Mathlib.Data.List.Forall2
import Mathlib.Tactic.Common
import SuitePool.Proofs.Loop.Serve

/-!
# Tasks in a stream

A pool writes the tasks for a worker process one after another, each as one line.  Paths and ids may
hold line ends, quotation marks, control characters and blanks: these are escaped or stand between
quotation marks, so that a line ends where its task does, and is not blank.  The worker reads as
many lines as tasks were written, and each line as its task.

## Main definitions

* `Task.stream?`: the bytes that are written for tasks.

## Main results

* `Text.taskLines_flatMap`: lines that are written one after another are read back.
* `serve_stream`: a worker does the tasks that were written for it.
* `stream_readable`: the stream of tasks is read as these tasks.
-/

namespace SuitePool

open Text

variable {σ : Type}

/-- **Lines that are written one after another are read back**, if none holds an end of a line. -/
theorem Text.taskLines_flatMap {lines : List (List Char)}
    (h : ∀ l ∈ lines, '\n' ∉ l ∧ '\r' ∉ l) :
    taskLines (lines.flatMap fun l => Utf8.encode (l ++ ['\n'])) = lines.map Utf8.encode := by
  induction lines with
  | nil => simp [taskLines, byteLines]
  | cons l more ih =>
    rw [List.forall_mem_cons] at h
    obtain ⟨⟨hn, hr⟩, hmore⟩ := h
    -- The line feed behind the first line is the first one of all.
    have hcut : Utf8.encode (l ++ ['\n']) ++ more.flatMap (fun l => Utf8.encode (l ++ ['\n'])) =
        Utf8.encode l ++ lineFeed :: more.flatMap fun l => Utf8.encode (l ++ ['\n']) := by
      rw [Utf8.encode_append, List.append_assoc]
      rfl
    have hlast : (Utf8.encode l).getLast? ≠ some carriageReturn := fun hc =>
      carriageReturn_not_mem_encode hr (List.mem_of_getLast? hc)
    rw [List.flatMap_cons, hcut, taskLines_line (lineFeed_not_mem_encode hn), if_neg hlast,
      ih hmore, List.map_cons]

namespace Task

/-- **The bytes that are written for tasks**, one line for each of them; nothing if one of them
cannot be written. -/
def stream? (tasks : List Task) : Option Bytes := (tasks.mapM line?).map List.flatten

theorem stream?_of_isWritable {tasks : List Task} (h : ∀ t ∈ tasks, t.IsWritable) :
    stream? tasks = some (tasks.flatMap fun t => Utf8.encode (t.toJson.write ++ ['\n'])) := by
  have hm : tasks.mapM line? =
      some (tasks.map fun t => Utf8.encode (t.toJson.write ++ ['\n'])) := by
    induction tasks with
    | nil => rfl
    | cons t more ih =>
      rw [List.forall_mem_cons] at h
      rw [List.mapM_cons, line?_of_isWritable h.1, ih h.2]
      rfl
  rw [stream?, hm, Option.map_some, List.flatMap_def]

end Task

/-- **A worker does the tasks that were written for it**, in their order. -/
theorem serve_stream [Wording] (site : Site σ) (sink : Sink) {tasks : List Task} {stream : Bytes}
    (h : List.Forall₂ (fun line t => t.IsReadFrom line) (taskLines stream) tasks) :
    serve site sink stream =
      tasks.foldlM (fun taken t => t.run site >>= sendReply sink taken) [] := by
  have hreq : requests stream = tasks.map .task := by
    rw [requests, ← List.forall₂_eq_eq_eq, List.forall₂_map_left_iff, List.forall₂_map_right_iff]
    exact h.imp fun line t ht => Request.ofLine_of_isReadFrom ht
  rw [serve_eq, hreq, List.foldlM_map]
  congr 1
  funext taken t
  rw [serveRequest, Request.answer, Exec.bind_assoc]
  simp only [Exec.pure_bind]

/-- **The stream of tasks is read as these tasks.**  If all paths are UTF-8, the tasks can be
written, and a worker reads one line for each of them, in their order: no line is blank, and each
holds its task.  So the worker does these tasks and no other. -/
theorem stream_readable [Wording] {tasks : List Task} (h : ∀ t ∈ tasks, t.IsWritable) :
    ∃ stream, Task.stream? tasks = some stream ∧
      List.Forall₂ (fun line t => t.IsReadFrom line) (taskLines stream) tasks ∧
      ∀ {σ : Type} (site : Site σ) (sink : Sink), serve site sink stream =
        tasks.foldlM (fun taken t => t.run site >>= sendReply sink taken) [] := by
  refine ⟨_, Task.stream?_of_isWritable h, ?_⟩
  have hlines : List.Forall₂ (fun line t => t.IsReadFrom line)
      (taskLines (tasks.flatMap fun t => Utf8.encode (t.toJson.write ++ ['\n']))) tasks := by
    have hends : ∀ l ∈ tasks.map fun t => t.toJson.write, '\n' ∉ l ∧ '\r' ∉ l := by
      intro l hl
      obtain ⟨t, -, rfl⟩ := List.mem_map.1 hl
      exact ⟨t.not_mem_write (by decide), t.not_mem_write (by decide)⟩
    have hcut := Text.taskLines_flatMap hends
    rw [List.flatMap_map] at hcut
    rw [hcut, List.map_map, List.forall₂_map_left_iff, List.forall₂_same]
    exact fun t ht => Task.isReadFrom_write (h t ht)
  exact ⟨hlines, fun site sink => serve_stream site sink hlines⟩

/-- A file and a module path with line ends, quotation marks and blanks, and ids of any text. -/
def oddTasks : List Task :=
  [.discoverFile (.ofString " \"a\"\r\n.rs ") [.ofString "\n", .ofString "\\\t"],
    .runTestIds [⟨"\n"⟩, ⟨"\",\r"⟩, ⟨""⟩], .runTestIds []]

open scoped Terse in
/-- They are read as they were written. -/
theorem stream_readable_odd :
    (∀ t ∈ oddTasks, t.IsWritable) ∧
      ∃ stream, Task.stream? oddTasks = some stream ∧ (taskLines stream).length = 3 ∧
        List.Forall₂ (fun line t => t.IsReadFrom line) (taskLines stream) oddTasks := by
  have h : ∀ t ∈ oddTasks, t.IsWritable := by
    simp [oddTasks, Task.IsWritable, Task.paths, Path.isSome_text?_ofString]
  obtain ⟨stream, hs, hlines, -⟩ := stream_readable h
  exact ⟨h, stream, hs, hlines.length_eq, hlines⟩

end SuitePool
