import Mathlib.Data.List.Basic
import Mathlib.Data.List.Forall2
import Mathlib.Data.List.Perm.Basic
import Mathlib.Tactic.Common
import SuitePool.Proofs.Cases.Order

/-!
# A report is the sum of its cases

Every case is run on an instance of its own and only adds to the report it is given.  So what it
adds is what it comes to when it is run alone, whatever ran before it, and the report of a run is
the sum of the reports of its ids, each alone, in the order of the run.

## Main results

* `Registry.runOne_merge`: a case acts on the last part of a merge.
* `Registry.finished_foldlM_runOne`: ids one after the other.
* `Registry.testsRun_of_single`, `Registry.id_of_single`: the report of one id.
* `Registry.runIds_sum`: the report of a run.
-/

namespace SuitePool

variable {σ : Type}

namespace Report

/-! ## Sums of reports -/

theorem failures_mergeAll (rs : List Report) :
    (mergeAll rs).failures = rs.flatMap (·.failures) := by
  induction rs with
  | nil => rfl
  | cons r rs ih => rw [mergeAll_cons, List.flatMap_cons, ← ih]; rfl

theorem errors_mergeAll (rs : List Report) : (mergeAll rs).errors = rs.flatMap (·.errors) := by
  induction rs with
  | nil => rfl
  | cons r rs ih => rw [mergeAll_cons, List.flatMap_cons, ← ih]; rfl

/-- Problems of a case are recorded with its id. -/
theorem id_of_mem_record {q : Report} {id : TestId} {ps : List Problem} {f : CaseFailure}
    (hf : f ∈ (q.record id ps).failures ∨ f ∈ (q.record id ps).errors) :
    f.id = id ∨ f ∈ q.failures ∨ f ∈ q.errors := by
  rw [record] at hf
  rw [show q.failures = q.startTest.failures from rfl, show q.errors = q.startTest.errors from rfl]
  generalize q.startTest = s at hf ⊢
  induction ps generalizing s with
  | nil => exact .inr hf
  | cons p ps ih =>
    -- What the first problem adds has the id, and the others add to that.
    rcases ih _ hf with h | h
    · exact .inl h
    · simp only [add] at h
      split_ifs at h <;> simp only [List.mem_append, List.mem_singleton] at h
      · rcases h with h | h | rfl
        · exact .inr (.inl h)
        · exact .inr (.inr h)
        · exact .inl rfl
      · rcases h with (h | rfl) | h
        · exact .inr (.inl h)
        · exact .inl rfl
        · exact .inr (.inr h)

end Report

namespace Registry

variable {r : Registry σ} {host : Host} {id : TestId} {ids : List TestId} {q report : Report}

/-! ## One id alone -/

/-- **A case acts on the last part of a merge.** -/
theorem runOne_merge (r : Registry σ) (host : Host) (p q : Report) (id : TestId) :
    r.runOne host (p.merge q) id = p.merge <$> r.runOne host q id := by
  unfold runOne
  rw [map_bind]
  exact bind_congr fun s => runId_merge s.1 s.2 host p q id

/-- A run of one id. -/
theorem runIds_single (r : Registry σ) (host : Host) (h : id.suitePath?.isSome) :
    r.runIds host [id] = r.runOne host .empty id := by
  have hone : ∀ i ∈ [id], i.suitePath?.isSome := by simpa using h
  rw [r.runIds_eq_foldlM_bySuite host hone, TestId.bySuite, List.mergeSort_singleton,
    List.foldlM_cons]
  exact bind_pure _

/-- The report of one id holds the problems of its stages. -/
theorem record_of_runOne (h : (r.runOne host .empty id).ending = .finished q) :
    ∃ ps n, (r.stagesOf host id).ending = .finished ps ∧
      q = (Report.empty.record id ps).addDuration n := by
  have halike := r.alike_runOne host .empty id
  rw [Exec.Alike, h] at halike
  generalize (r.stagesOf host id).ending = e at halike
  cases halike with
  | @finished _ ps hq =>
    obtain ⟨n, rfl⟩ := hq
    exact ⟨ps, n, rfl, rfl⟩

/-- **One id is counted once.** -/
theorem testsRun_of_single (hid : id.suitePath?.isSome)
    (h : (r.runIds host [id]).ending = .finished q) : q.testsRun = 1 := by
  rw [r.runIds_single host hid] at h
  obtain ⟨ps, n, -, rfl⟩ := record_of_runOne h
  exact Report.testsRun_record .empty id ps

/-- **One id has all the records** of its report. -/
theorem id_of_single (hid : id.suitePath?.isSome)
    (h : (r.runIds host [id]).ending = .finished q) {f : CaseFailure}
    (hf : f ∈ q.failures ∨ f ∈ q.errors) : f.id = id := by
  rw [r.runIds_single host hid] at h
  obtain ⟨ps, n, -, rfl⟩ := record_of_runOne h
  rcases Report.id_of_mem_record (q := .empty) hf with hf | hf | hf
  · exact hf
  · cases hf
  · cases hf

/-! ## Ids one after the other -/

/-- **Ids that are run one after the other** come to the sum of what each comes to alone. -/
theorem finished_foldlM_runOne (hids : ∀ id ∈ ids, id.suitePath?.isSome)
    (h : (ids.foldlM (r.runOne host) .empty).ending = .finished report) :
    ∃ qs, List.Forall₂ (fun id q => (r.runIds host [id]).ending = .finished q) ids qs ∧
      report = .mergeAll qs := by
  induction ids generalizing report with
  | nil =>
    cases h
    exact ⟨[], .nil, rfl⟩
  | cons id ids ih =>
    rw [List.forall_mem_cons] at hids
    rw [List.foldlM_cons] at h
    obtain ⟨p, hp, h⟩ := Exec.finished_of_bind h
    -- The others go on from the report of the first, which is itself merged with nothing.
    rw [← Report.merge_empty p,
      foldlM_merge ids fun q id _ => r.runOne_merge host p q id] at h
    obtain ⟨q, hq, h⟩ := Exec.finished_of_map h
    obtain ⟨qs, hqs, rfl⟩ := ih hids.2 hq
    refine ⟨p :: qs, .cons ?_ hqs, ?_⟩
    · rw [r.runIds_single host hids.1, hp]
    · rw [← h, Report.mergeAll_cons]

theorem testsRun_mergeAll {qs : List Report} (hids : ∀ id ∈ ids, id.suitePath?.isSome)
    (h : List.Forall₂ (fun id q => (r.runIds host [id]).ending = .finished q) ids qs) :
    (Report.mergeAll qs).testsRun = .ofNat ids.length := by
  induction h with
  | nil => rfl
  | @cons id q ids qs hq _ ih =>
    rw [List.forall_mem_cons] at hids
    rw [Report.mergeAll_cons, List.length_cons, Nat.add_comm, UInt64.ofNat_add, ← ih hids.2,
      Report.merge, testsRun_of_single hids.1 hq]
    rfl

/-- **The records of one id** are those that it has alone, as many times as it was run. -/
theorem filter_id_flatMap {qs : List Report} {records : Report → List CaseFailure}
    (hrecords : ∀ q, ∀ f ∈ records q, f ∈ q.failures ∨ f ∈ q.errors)
    (hids : ∀ id ∈ ids, id.suitePath?.isSome)
    (h : List.Forall₂ (fun id q => (r.runIds host [id]).ending = .finished q) ids qs)
    (hq : (r.runIds host [id]).ending = .finished q) :
    (qs.flatMap records).filter (·.id = id) =
      (List.replicate (ids.count id) (records q)).flatten := by
  induction h with
  | nil => rfl
  | @cons i p ids qs hp _ ih =>
    rw [List.forall_mem_cons] at hids
    have hp' : ∀ f ∈ records p, f.id = i := fun f hf => id_of_single hids.1 hp (hrecords p f hf)
    rw [List.flatMap_cons, List.filter_append, ih hids.2, List.count_cons]
    by_cases hi : i = id
    · subst hi
      obtain rfl : p = q := Ending.finished.inj (hp.symm.trans hq)
      rw [List.filter_eq_self.2 fun f hf => decide_eq_true (hp' f hf), if_pos (beq_self_eq_true i),
        List.replicate_succ, List.flatten_cons]
    · have hnone : (records p).filter (·.id = id) = [] := by
        rw [List.filter_eq_nil_iff]
        intro f hf
        rw [decide_eq_true_iff, hp' f hf]
        exact hi
      rw [hnone, if_neg (by simpa using hi), List.nil_append, Nat.add_zero]

/-- **A run comes to the sum of its ids**, each alone. -/
theorem exists_singles_of_runIds (h : (r.runIds host ids).ending = .finished report) :
    (∀ id ∈ ids, id.suitePath?.isSome) ∧
      ∃ qs, List.Forall₂ (fun id q => (r.runIds host [id]).ending = .finished q)
          (TestId.bySuite ids) qs ∧ report = .mergeAll qs := by
  have hids : ∀ id ∈ ids, id.suitePath?.isSome := by
    cases hg : groupIds ids with
    | ok groups => exact suitePath?_isSome_of_groupIds hg
    | error e =>
      rw [runIds, hg] at h
      cases h
  rw [r.runIds_eq_foldlM_bySuite host hids] at h
  exact ⟨hids, finished_foldlM_runOne
    (fun id hid => hids id ((TestId.perm_bySuite ids).mem_iff.1 hid)) h⟩

/-- **A run counts all ids.** -/
theorem testsRun_of_runIds (h : (r.runIds host ids).ending = .finished report) :
    report.testsRun = .ofNat ids.length := by
  obtain ⟨hids, qs, hqs, rfl⟩ := exists_singles_of_runIds h
  have hperm := TestId.perm_bySuite ids
  rw [testsRun_mergeAll (fun id hid => hids id (hperm.mem_iff.1 hid)) hqs, hperm.length_eq]

end Registry

/-! ## The report of a run -/

/-- **The report of a run is the sum of its cases.**  It counts all ids, and holds the records that
each id has when it is run alone, in the order of the run.  So the records of an id do not depend on
the others, and a run with the same order within suites is the same. -/
theorem Registry.runIds_sum {r : Registry σ} {host : Host} {ids : List TestId} {report : Report}
    (h : (r.runIds host ids).ending = .finished report) :
    report.testsRun = .ofNat ids.length ∧
      (∃ qs, List.Forall₂ (fun id q => (r.runIds host [id]).ending = .finished q)
          (TestId.bySuite ids) qs ∧
        report.failures = qs.flatMap (·.failures) ∧ report.errors = qs.flatMap (·.errors)) ∧
      (∀ id ∈ ids, ∃ q, (r.runIds host [id]).ending = .finished q ∧
        report.failures.filter (·.id = id) =
          (List.replicate (ids.count id) q.failures).flatten ∧
        report.errors.filter (·.id = id) = (List.replicate (ids.count id) q.errors).flatten) ∧
      ∀ ids', (∀ path, ids'.filter (·.suitePath? = path) = ids.filter (·.suitePath? = path)) →
        r.runIds host ids' = r.runIds host ids := by
  have hcount := testsRun_of_runIds h
  obtain ⟨hids, qs, hqs, rfl⟩ := exists_singles_of_runIds h
  have hperm := TestId.perm_bySuite ids
  have horder : ∀ id ∈ TestId.bySuite ids, id.suitePath?.isSome :=
    fun id hid => hids id (hperm.mem_iff.1 hid)
  rw [Report.failures_mergeAll, Report.errors_mergeAll]
  have hsingles : ∀ id ∈ TestId.bySuite ids, ∃ q, (r.runIds host [id]).ending = .finished q :=
    ((List.forall₂_and_left _ qs).1 (hqs.imp fun id q hq => ⟨⟨q, hq⟩, hq⟩)).1
  refine ⟨hcount, ⟨qs, hqs, rfl, rfl⟩, fun id hid => ?_, fun ids' => r.runIds_congr host hids⟩
  obtain ⟨q, hq⟩ := hsingles id (hperm.mem_iff.2 hid)
  rw [← hperm.count_eq]
  exact ⟨q, hq, filter_id_flatMap (fun _ _ => .inl) horder hqs hq,
    filter_id_flatMap (fun _ _ => .inr) horder hqs hq⟩

/-! ## Instances that are used once -/

/-- A suite whose set-up fails on an instance that was set up before; whose body fails, and whose
tear-down panics. -/
def onceSuite (name : String) : Suite Bool where
  name := name
  isAbstract := false
  construct := fun _ => .ofEnding (.finished false)
  setUp := fun _ used => (true, .ofEnding (if used then .failed ["used"] else .finished ()))
  tearDown := fun _ used => (used, .ofEnding (.panicked none))
  members := [("test_one", .method fun _ used => (used, .ofEnding (.failed ["boom"])))]

/-- Two such suites. -/
def onceRegistry : Registry Bool :=
  ⟨.ofString "/pkg", [⟨"m", [.suite (onceSuite "A"), .suite (onceSuite "B")]⟩]⟩

/-- Ids of both, one of them twice. -/
def onceIds : List TestId :=
  [.ofParts "m" "B" "test_one", .ofParts "m" "A" "test_one", .ofParts "m" "B" "test_one"]

/-- What they come to. -/
def onceReport : Report :=
  ⟨3, [⟨.ofParts "m" "A" "test_one", .failed, "boom"⟩,
      ⟨.ofParts "m" "B" "test_one", .failed, "boom"⟩,
      ⟨.ofParts "m" "B" "test_one", .failed, "boom"⟩],
    [⟨.ofParts "m" "A" "test_one", .panicked, "panicked"⟩,
      ⟨.ofParts "m" "B" "test_one", .panicked, "panicked"⟩,
      ⟨.ofParts "m" "B" "test_one", .panicked, "panicked"⟩], 0⟩

/-- The records of the id that is run twice are twice those that it has alone. -/
theorem Registry.runIds_sum_once :
    (onceRegistry.runIds ⟨none⟩ onceIds).ending = .finished onceReport ∧
      ∃ q, (onceRegistry.runIds ⟨none⟩ [.ofParts "m" "B" "test_one"]).ending = .finished q ∧
        onceReport.failures.filter (·.id = .ofParts "m" "B" "test_one") =
          q.failures ++ q.failures := by
  have h : (onceRegistry.runIds ⟨none⟩ onceIds).ending = .finished onceReport := by
    decide +kernel
  obtain ⟨-, -, hrecords, -⟩ := runIds_sum h
  obtain ⟨q, hq, hf, -⟩ := hrecords (.ofParts "m" "B" "test_one") (List.mem_cons_self ..)
  have hcount : onceIds.count (.ofParts "m" "B" "test_one") = 2 := by decide +kernel
  rw [hcount] at hf
  refine ⟨h, q, hq, ?_⟩
  rw [hf]
  simp

end SuitePool
