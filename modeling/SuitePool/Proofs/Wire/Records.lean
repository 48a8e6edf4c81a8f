import Mathlib.Data.List.Basic
import Mathlib.Tactic.Common
import SuitePool.Pool.Schedule
import SuitePool.Proofs.Json.RoundTrip
import SuitePool.Proofs.Text.Encoding
import SuitePool.WorkerLoop

/-!
# Records on the wire

Tasks and replies are written as JSON and read back on the other side.  Ids and errors arrive as
they were sent.  A report arrives with its duration cut to whole milliseconds, and nothing else of
it changes; a task arrives unchanged unless a path of it is not UTF-8, and then it is not sent.

## Main definitions

* `Report.received`: a report as it arrives.
* `Reply.IsStored`: a reply whose value is in the stored form and can be read back.
* `Reply.IsExact`: a reply whose value is in the stored form, however deeply it is nested.
* `Task.IsWritable`: a task all of whose paths are UTF-8.

## Main results

* `Report.ofJson?_stored`: a stored report is read back as `Report.received`.
* `Crew.readReport_stored`, `Crew.readIds_toJson`: what a caller reads.
* `Reply.isStored_iff`: an exact reply is stored unless it is nested too deeply.
* `Reply.ofJson?_toJson`: an exact reply is read back unchanged.
* `Task.ofJson?_toJson`: a writable task is read back unchanged.
-/

namespace SuitePool

open Text

/-! ## Lists and words -/

namespace Json

/-- A list is read item by item. -/
theorem list?_array_map {α β : Type} {read : Json → Option β} {write : α → Json} {f : α → β}
    (h : ∀ a, read (write a) = some (f a)) (as : List α) :
    list? read (.array (as.map write)) = some (as.map f) := by
  simp only [list?]
  induction as with
  | nil => rfl
  | cons a as ih => simp [List.mapM_cons, h, ih]

theorem normalItems_map {α : Type} (write : α → Json) (as : List α) :
    normalItems (as.map write) = as.map fun a => (write a).normal := by
  induction as with
  | nil => rfl
  | cons a as ih => simp [normalItems, ih]

/-- A stored list stays as it is. -/
theorem normal_array_map {α : Type} {write : α → Json} (h : ∀ a, (write a).normal = write a)
    (as : List α) : (array (as.map write)).normal = array (as.map write) := by
  rw [normal, normalItems_map]
  simp [h]

theorem isWhole_array_map {α : Type} {write : α → Json} (h : ∀ a, (write a).IsWhole)
    (as : List α) : (array (as.map write)).IsWhole := by
  rw [isWhole_array_iff]
  intro j hj
  obtain ⟨a, -, rfl⟩ := List.mem_map.1 hj
  exact h a

theorem depth_array_map_le {α : Type} {write : α → Json} {n : Nat} (h : ∀ a, (write a).depth ≤ n)
    (as : List α) : (array (as.map write)).depth ≤ n + 1 := by
  rw [depth]
  refine Nat.succ_le_succ (depthItems_le ?_)
  intro j hj
  obtain ⟨a, -, rfl⟩ := List.mem_map.1 hj
  exact h a

end Json

/-- A class of errors is read back, inside a reply too. -/
theorem ErrorKind.ofTaggedJson?_toJson (k : ErrorKind) : ofTaggedJson? k.toJson = some k := by
  cases k <;> decide

/-- A reason is read back. -/
theorem Reason.ofJson?_toJson (r : Reason) : ofJson? r.toJson = some r := by
  cases r <;> decide

/-- An id is read back. -/
theorem TestId.ofJson?_toJson (id : TestId) : ofJson? id.toJson = some id := rfl

theorem TestId.normal_toJson (id : TestId) : id.toJson.normal = id.toJson := rfl

/-- The ids of a list are read back. -/
theorem TestId.list?_toJson (ids : List TestId) :
    Json.list? ofJson? (.array (ids.map toJson)) = some ids := by
  rw [Json.list?_array_map ofJson?_toJson, List.map_id']

/-! ## Reports -/

namespace CaseFailure

/-- A record in the stored form. -/
def stored (f : CaseFailure) : Json :=
  .object [("id", f.id.toJson), ("message", .string f.message), ("reason", f.reason.toJson)]

theorem normal_toJson (f : CaseFailure) : f.toJson.normal = f.stored := by
  -- Members are sorted by inserting them one after another.
  simp only [toJson, stored, TestId.toJson, Reason.toJson, Json.string, Json.normal,
    Json.normalMembers, Json.sortMembers, Json.insertMember, List.foldl_cons, List.foldl_nil,
    String.reduceLT, String.reduceEq, if_true, if_false]

theorem normal_stored (f : CaseFailure) : f.stored.normal = f.stored := by
  simp only [stored, TestId.toJson, Reason.toJson, Json.string, Json.normal, Json.normalMembers,
    Json.sortMembers, Json.insertMember, List.foldl_cons, List.foldl_nil, String.reduceLT,
    String.reduceEq, if_false]

/-- A stored record is read back. -/
theorem ofJson?_stored (f : CaseFailure) : ofJson? f.stored = some f := by
  have hr : Reason.ofJson? f.reason.toJson = some f.reason := Reason.ofJson?_toJson f.reason
  have hi : TestId.ofJson? f.id.toJson = some f.id := TestId.ofJson?_toJson f.id
  simp [ofJson?, stored, Json.fields?, Json.once?, hr, hi, Json.string, Json.string?]

theorem isWhole_stored (f : CaseFailure) : f.stored.IsWhole := by
  simp only [stored, Json.isWhole_object_iff, List.forall_mem_cons]
  exact ⟨Json.isWhole_string _, Json.isWhole_string _, Json.isWhole_string _, by simp⟩

theorem depth_stored (f : CaseFailure) : f.stored.depth ≤ 1 := by
  simp [stored, TestId.toJson, Reason.toJson, Json.string, Json.depth, Json.depthMembers]

end CaseFailure

namespace Report

/-- **A report as it arrives**: its duration is cut to whole milliseconds. -/
def received (r : Report) : Report :=
  { r with duration := wholeMilliseconds r.duration * nanosecondsPerMillisecond }

/-- A report that arrived arrives unchanged when it is sent on. -/
@[simp] theorem received_received (r : Report) : r.received.received = r.received := by
  have hd : wholeMilliseconds (wholeMilliseconds r.duration * nanosecondsPerMillisecond) =
      wholeMilliseconds r.duration := by
    rw [wholeMilliseconds, Nat.mul_div_cancel _ (by decide), wholeMilliseconds, Nat.mod_mod]
  rw [received, received, hd]

/-- A report in the stored form. -/
def stored (r : Report) : Json :=
  .object [("duration", .nat (wholeMilliseconds r.duration)),
    ("errors", .array (r.errors.map CaseFailure.stored)),
    ("failures", .array (r.failures.map CaseFailure.stored)),
    ("tests_run", .nat r.testsRun.toNat)]

theorem normal_toJson (r : Report) : r.toJson.normal = r.stored := by
  simp only [toJson, stored, Json.normal, Json.normalMembers, Json.normalItems_map,
    CaseFailure.normal_toJson, Json.nat, Json.int, Json.sortMembers, Json.insertMember,
    List.foldl_cons, List.foldl_nil, String.reduceLT, String.reduceEq, if_true, if_false]

theorem normal_stored (r : Report) : r.stored.normal = r.stored := by
  simp only [stored, Json.normal, Json.normalMembers, Json.normalItems_map,
    CaseFailure.normal_stored, Json.nat, Json.int, Json.sortMembers, Json.insertMember,
    List.foldl_cons, List.foldl_nil, String.reduceLT, String.reduceEq, if_false]

/-- **A stored report is read back**, with its duration in whole milliseconds. -/
theorem ofJson?_stored (r : Report) : ofJson? r.stored = some r.received := by
  have hn (n : Nat) (h : n < UInt64.size) : (Json.nat n).natural? = some n := by
    show (if n < UInt64.size then some n else none) = some n
    rw [if_pos h]
  have hf (fs : List CaseFailure) :
      Json.list? CaseFailure.ofJson? (.array (fs.map CaseFailure.stored)) = some fs := by
    rw [Json.list?_array_map CaseFailure.ofJson?_stored, List.map_id']
  -- Both numbers are of 64 bits: the one is counted in them, the other is reduced to them.
  have ht := hn r.testsRun.toNat r.testsRun.toNat_lt
  have hd := hn (wholeMilliseconds r.duration) (Nat.mod_lt _ (by decide))
  simp [ofJson?, stored, Json.fields?, Json.once?, hf, ht, hd, received]

theorem isWhole_stored (r : Report) : r.stored.IsWhole := by
  simp only [stored, Json.isWhole_object_iff, List.forall_mem_cons]
  exact ⟨Json.isWhole_nat (Nat.mod_lt _ (by decide)),
    Json.isWhole_array_map CaseFailure.isWhole_stored _,
    Json.isWhole_array_map CaseFailure.isWhole_stored _,
    Json.isWhole_nat r.testsRun.toNat_lt, by simp⟩

theorem depth_stored (r : Report) : r.stored.depth ≤ 3 := by
  have h (fs : List CaseFailure) := Json.depth_array_map_le CaseFailure.depth_stored fs
  have he := h r.errors
  have hf := h r.failures
  simp only [stored, Json.depth, Json.depthMembers, Json.nat, Json.int] at he hf ⊢
  omega

end Report

/-! ## Replies -/

namespace Reply

/-- **Is the value of a reply in the stored form**, with whole numbers, and not nested so deeply
that it could not be read back inside the reply? -/
def IsStored : Reply → Prop
  | done value => value.normal = value ∧ value.IsWhole ∧ value.depth < Json.greatestDepth
  | failed .. => True

/-- **Is the value of a reply in the stored form**, with whole numbers?  It may be nested too deeply
to be read back. -/
def IsExact : Reply → Prop
  | done value => value.normal = value ∧ value.IsWhole
  | failed .. => True

theorem IsStored.isExact {r : Reply} (h : r.IsStored) : r.IsExact := by
  cases r with
  | done value => exact ⟨h.1, h.2.1⟩
  | failed kind message => trivial

/-- **An exact reply is stored unless it is nested too deeply.**  The reply is one more level around
its value. -/
theorem isStored_iff {r : Reply} :
    r.IsStored ↔ r.IsExact ∧ r.toJson.depth ≤ Json.greatestDepth := by
  cases r with
  | done value =>
    have hd : (done value).toJson.depth = value.depth + 1 := by
      simp [toJson, Json.string, Json.depth, Json.depthMembers]
    rw [IsStored, IsExact, hd, Nat.succ_le_iff, and_assoc]
  | failed kind message =>
    simp [IsStored, IsExact, toJson, ErrorKind.toJson, Json.string, Json.depth, Json.depthMembers,
      Json.greatestDepth]

end Reply

/-- A stored report may be the value of a reply. -/
theorem Report.isStored_done (r : Report) : (Reply.done r.stored).IsStored :=
  ⟨r.normal_stored, r.isWhole_stored, Nat.lt_of_le_of_lt r.depth_stored (by decide)⟩

namespace Reply

theorem isWhole_toJson {r : Reply} (h : r.IsExact) : r.toJson.IsWhole := by
  cases r with
  | done value =>
    simp only [toJson, Json.isWhole_object_iff, List.forall_mem_cons]
    exact ⟨Json.isWhole_string _, h.2, by simp⟩
  | failed kind message =>
    simp only [toJson, Json.isWhole_object_iff, List.forall_mem_cons]
    exact ⟨Json.isWhole_string _, Json.isWhole_string _, Json.isWhole_string _, by simp⟩

/-- **An exact reply is read back unchanged** from the value that is written for it. -/
theorem ofJson?_toJson {r : Reply} (h : r.IsExact) : ofJson? r.toJson = some r := by
  cases r with
  | done value =>
    simp [ofJson?, toJson, Json.variant?, Json.fields?, Json.once?, Json.string, Json.string?, h.1]
  | failed kind message =>
    simp [ofJson?, toJson, Json.variant?, Json.fields?, Json.once?, Json.string, Json.string?,
      ErrorKind.ofTaggedJson?_toJson]

/-- What follows the marker of a frame holds the reply. -/
theorem parse?_write_toJson {r : Reply} (h : r.IsStored) :
    (Json.parse? r.toJson.write).bind ofJson? = some r := by
  rw [Json.parse?_write (isWhole_toJson h.isExact) (isStored_iff.1 h).2, Option.bind_some,
    ofJson?_toJson h.isExact]

theorem isStored_ofIds (result : Except Error (List TestId)) :
    (ofResult (fun ids => .array (ids.map TestId.toJson)) result).IsStored := by
  cases result with
  | error e => trivial
  | ok ids =>
    -- The form of ids is the stored one already.
    rw [ofResult, Json.normal_array_map TestId.normal_toJson]
    refine ⟨Json.normal_array_map TestId.normal_toJson ids,
      Json.isWhole_array_map (fun id : TestId => Json.isWhole_string id.text) ids, ?_⟩
    exact Nat.lt_of_le_of_lt (Json.depth_array_map_le (fun _ => Nat.le_refl 0) ids) (by decide)

theorem isStored_ofReport (result : Except Error Report) :
    (ofResult Report.toJson result).IsStored := by
  cases result with
  | error e => trivial
  | ok report =>
    rw [ofResult, Report.normal_toJson]
    exact report.isStored_done

end Reply

/-- **What a task replies is stored**, so it is read back unchanged. -/
theorem Task.isStored_of_execute {σ ε : Type} {site : Site σ} {t : Task} {r : Reply}
    (h : (t.execute site : Exec ε Reply).ending = .finished r) : r.IsStored := by
  cases t with
  | discoverFile file modulePath =>
    simp only [execute, bind, Exec.bind, pure, Exec.ofEnding] at h
    split at h <;> simp only [reduceCtorEq, Ending.finished.injEq] at h
    exact h ▸ Reply.isStored_ofIds _
  | runTestIds ids =>
    simp only [execute, bind, Exec.bind, pure, Exec.ofEnding] at h
    split at h <;> simp only [reduceCtorEq, Ending.finished.injEq] at h
    exact h ▸ Reply.isStored_ofReport _

/-! ## Tasks -/

/-- A path that is UTF-8 is the path of its text. -/
theorem Path.ofString_text {p : Path} (h : (text? p.bytes).isSome) : ofString p.text = p := by
  obtain ⟨s, hs⟩ := Option.isSome_iff_exists.1 h
  obtain ⟨cs, hcs, -⟩ := Option.map_eq_some_iff.1 hs
  -- The strict reading accepts the path, so the lossy one replaces nothing in it.
  have hb : p.bytes = Utf8.encode cs := Utf8.decode?_eq_some_iff.1 hcs
  rw [ofString, text, showBytes, utf8, String.toList_ofList, hb, Utf8.decodeLossy_encode, ← hb]

/-- The path of a text is UTF-8. -/
theorem Path.isSome_text?_ofString (s : String) : (text? (ofString s).bytes).isSome := by
  rw [ofString, Utf8.text?_utf8]
  rfl

namespace Crew

variable [Wording]

/-- A caller reads the ids that were discovered. -/
theorem readIds_toJson (ids : List TestId) :
    readIds (.array (ids.map TestId.toJson)) = .ok ids := by
  rw [readIds, readOr, TestId.list?_toJson]

/-- A caller reads a stored report as it arrives. -/
theorem readReport_stored (r : Report) : readReport r.stored = .ok r.received := by
  rw [readReport, readOr, Report.ofJson?_stored]

end Crew

namespace Task

/-- **Are all paths of the task UTF-8?** -/
def IsWritable (t : Task) : Prop := ∀ p ∈ t.paths, (text? p.bytes).isSome

/-- A run of ids has no paths. -/
theorem isWritable_runTestIds (ids : List TestId) : (runTestIds ids).IsWritable := by
  simp [IsWritable, paths]

theorem line?_of_isWritable {t : Task} (h : t.IsWritable) :
    t.line? = some (Utf8.encode (t.toJson.write ++ ['\n'])) := by
  rw [line?, if_pos (List.all_eq_true.2 h)]

theorem line?_of_not_isWritable {t : Task} (h : ¬ t.IsWritable) : t.line? = none := by
  rw [line?, if_neg fun ha => h (List.all_eq_true.1 ha)]

theorem list?_paths {ps : List Path} (h : ∀ p ∈ ps, (text? p.bytes).isSome) :
    Json.list? Path.ofJson? (.array (ps.map Path.toJson)) = some ps := by
  have hr (p : Path) : Path.ofJson? p.toJson = some (.ofString p.text) := rfl
  rw [Json.list?_array_map hr, List.map_congr_left fun p hp => Path.ofString_text (h p hp),
    List.map_id']

/-- **A writable task is read back unchanged.** -/
theorem ofJson?_toJson {t : Task} (h : t.IsWritable) : ofJson? t.toJson = some t := by
  cases t with
  | discoverFile file modulePath =>
    rw [IsWritable, paths, List.forall_mem_cons] at h
    have hf : Path.ofJson? file.toJson = some file := congrArg some (Path.ofString_text h.1)
    simp [ofJson?, toJson, Json.variant?, Json.fields?, Json.once?, Json.string, Json.string?, hf,
      list?_paths h.2]
  | runTestIds ids =>
    simp [ofJson?, toJson, Json.variant?, Json.fields?, Json.once?, Json.string, Json.string?,
      TestId.list?_toJson]

theorem isWhole_toJson (t : Task) : t.toJson.IsWhole := by
  cases t with
  | discoverFile file modulePath =>
    simp only [toJson, Json.isWhole_object_iff, List.forall_mem_cons]
    exact ⟨Json.isWhole_string _, Json.isWhole_string _,
      Json.isWhole_array_map (fun p : Path => Json.isWhole_string p.text) _, by simp⟩
  | runTestIds ids =>
    simp only [toJson, Json.isWhole_object_iff, List.forall_mem_cons]
    exact ⟨Json.isWhole_string _,
      Json.isWhole_array_map (fun id : TestId => Json.isWhole_string id.text) _, by simp⟩

theorem depth_toJson (t : Task) : t.toJson.depth ≤ 2 := by
  cases t with
  | discoverFile file modulePath =>
    have h : (Json.array (modulePath.map Path.toJson)).depth ≤ 0 + 1 :=
      Json.depth_array_map_le (fun _ => Nat.le_refl 0) modulePath
    simp only [toJson, Path.toJson, Json.depth, Json.depthMembers, Json.string] at h ⊢
    omega
  | runTestIds ids =>
    have h : (Json.array (ids.map TestId.toJson)).depth ≤ 0 + 1 :=
      Json.depth_array_map_le (fun _ => Nat.le_refl 0) ids
    simp only [toJson, Json.depth, Json.depthMembers, Json.string] at h ⊢
    omega

/-- The text of a writable task holds the task. -/
theorem parse?_write_toJson {t : Task} (h : t.IsWritable) : parse? t.toJson.write = some t := by
  rw [parse?, Json.parse?_write t.isWhole_toJson (Nat.le_trans t.depth_toJson (by decide)),
    Option.bind_some, ofJson?_toJson h]

end Task

end SuitePool
