import Mathlib.Data.List.Basic
import Mathlib.Data.List.Forall2
import Mathlib.Data.List.Induction
import Mathlib.Tactic.Common
import SuitePool.Proofs.Cases.Sum

/-!
# What reports collect

A report is filled step by step: a case is counted, a problem is added, a time is added.  Each step
acts on the last part of a merge.  So the steps that lead to a report are read as a word, merging is
putting words behind one another, and a report depends on the word alone: it does not matter where
the word is cut, nor how the reports of its pieces are merged.

A case is counted once.  Its set-up or its construction adds one problem that is no failure, or its
body and its tear-down add one each, of which only the first can be a failure.

## Main definitions

* `Report.Operation`, `Report.apply`: one step.
* `Report.ofOperations`: the report of a word.
* `Report.IsMerged`: reports that are merged in some bracketing.
* `Report.IsReached`: reports that a word leads to, with merges in between.
* `Report.caseOperations`, `Registry.IsWordOf`: the word of a case, and of an id.

## Main results

* `Report.ofOperations_append`: the report of a word is the merge of the reports of its parts.
* `Report.ofOperations_eq`: what the report of a word holds.
* `Report.IsMerged.eq_mergeAll`: the bracketing does not matter.
* `Report.IsReached.eq_ofOperations`: a report depends on its word alone.
* `Suite.length_le_of_runStages`: how many problems a case has.
* `Registry.exists_words_of_runIds`: the word of a run.
* `Report.aggregation_laws`: what is so of all reports, and of those of runs.
-/

namespace SuitePool

variable {σ ε : Type}

namespace Report

/-! ## Words -/

/-- **One step** that fills a report. -/
inductive Operation where
  /-- A case is counted. -/
  | start
  | add (f : CaseFailure)
  /-- Cases took some time. -/
  | took (nanoseconds : Nat)
  deriving DecidableEq

namespace Operation

/-- The record that a step adds. -/
def added? : Operation → Option CaseFailure
  | add f => some f
  | _ => none

/-- The time that a step adds. -/
def time : Operation → Nat
  | took n => n
  | _ => 0

end Operation

/-- A report after one more step. -/
def apply (r : Report) : Operation → Report
  | .start => r.startTest
  | .add f => r.add f
  | .took n => r.addDuration n

/-- **The report of a word**: its steps, taken from the empty report. -/
def ofOperations (ops : List Operation) : Report := ops.foldl apply empty

/-- The time that the steps of a word add. -/
def totalTime (ops : List Operation) : Nat := ops.foldl (fun n op => n + op.time) 0

theorem totalTime_concat (ops : List Operation) (op : Operation) :
    totalTime (ops ++ [op]) = totalTime ops + op.time :=
  List.foldl_concat ..

theorem apply_merge (r s : Report) (op : Operation) :
    (r.merge s).apply op = r.merge (s.apply op) := by
  cases op with
  | start => exact startTest_merge r s
  | add f => exact add_merge r s f
  | took n => exact addDuration_merge r s n

theorem ofOperations_concat (ops : List Operation) (op : Operation) :
    ofOperations (ops ++ [op]) = (ofOperations ops).apply op :=
  List.foldl_concat ..

/-- **The report of a word is the merge of the reports of its parts.** -/
theorem ofOperations_append (ops ops' : List Operation) :
    ofOperations (ops ++ ops') = (ofOperations ops).merge (ofOperations ops') := by
  induction ops' using List.reverseRecOn with
  | nil => rw [List.append_nil, ofOperations, ofOperations, List.foldl_nil, merge_empty]
  | append_singleton ops' op ih =>
    -- The last step acts on the second part.
    rw [← List.append_assoc, ofOperations_concat, ih, ofOperations_concat, apply_merge]

/-- **What the report of a word holds.** -/
theorem ofOperations_eq (ops : List Operation) :
    ofOperations ops =
      ⟨.ofNat (ops.count .start), (ops.filterMap (·.added?)).filter (·.reason = .failed),
        (ops.filterMap (·.added?)).filter (·.reason ≠ .failed), totalTime ops⟩ := by
  induction ops using List.reverseRecOn with
  | nil => rfl
  | append_singleton ops op ih =>
    rw [ofOperations_concat, ih, List.count_append, List.filterMap_append, List.filter_append,
      List.filter_append, totalTime_concat, UInt64.ofNat_add]
    cases op with
    | start => simp [apply, startTest, Operation.added?, Operation.time]
    | took n => simp [apply, addDuration, Operation.added?, Operation.time]
    | add f =>
      -- The list that a record goes to is that of its reason.
      cases h : f.reason <;> simp [apply, add, h, Reason.isError, Operation.added?, Operation.time]

theorem mem_filterMap_added_iff {f : CaseFailure} {ops : List Operation} :
    f ∈ ops.filterMap (·.added?) ↔ .add f ∈ ops := by
  rw [List.mem_filterMap]
  constructor
  · rintro ⟨op, hop, h⟩
    cases op <;> cases h
    exact hop
  · intro h
    exact ⟨_, h, rfl⟩

/-- **No record is lost**, and none is there twice. -/
theorem perm_problems_ofOperations (ops : List Operation) :
    (ofOperations ops).problems.Perm (ops.filterMap (·.added?)) := by
  rw [problems, ofOperations_eq]
  simp only [ne_eq, decide_not]
  exact List.filter_append_perm ..

/-- **A report is successful exactly if nothing was added.** -/
theorem successful_ofOperations_iff (ops : List Operation) :
    (ofOperations ops).successful = true ↔ ∀ f, .add f ∉ ops := by
  rw [ofOperations_eq, successful, Bool.and_eq_true, List.isEmpty_iff, List.isEmpty_iff,
    List.filter_eq_nil_iff, List.filter_eq_nil_iff]
  constructor
  · rintro ⟨hfailures, herrors⟩ f hf
    have hadded := mem_filterMap_added_iff.2 hf
    -- A record is in one of the two lists.
    have hreason : f.reason ≠ .failed := by simpa using hfailures f hadded
    exact herrors f hadded (by simpa using hreason)
  · intro h
    exact ⟨fun f hf => absurd (mem_filterMap_added_iff.1 hf) (h f),
      fun f hf => absurd (mem_filterMap_added_iff.1 hf) (h f)⟩

/-! ## Pieces -/

/-- **Reports that are merged** from left to right, in some bracketing. -/
inductive IsMerged : List Report → Report → Prop
  | none : IsMerged [] empty
  | one (r : Report) : IsMerged [r] r
  | merge {rs ss : List Report} {r s : Report} (hr : IsMerged rs r) (hs : IsMerged ss s) :
      IsMerged (rs ++ ss) (r.merge s)

/-- **The bracketing does not matter.** -/
theorem IsMerged.eq_mergeAll {rs : List Report} {r : Report} (h : IsMerged rs r) :
    r = mergeAll rs := by
  induction h with
  | none => rfl
  | one r => rw [mergeAll_cons, mergeAll, List.foldl_nil, merge_empty]
  | merge _ _ hr hs => rw [mergeAll_append, ← hr, ← hs]

/-- Where a word is cut does not matter. -/
theorem mergeAll_ofOperations (pieces : List (List Operation)) :
    mergeAll (pieces.map ofOperations) = ofOperations pieces.flatten := by
  induction pieces with
  | nil => rfl
  | cons ops pieces ih =>
    rw [List.map_cons, mergeAll_cons, ih, List.flatten_cons, ofOperations_append]

/-- **Reports that a word leads to**, its steps being taken on any of the reports that are merged
in the end. -/
inductive IsReached : List Operation → Report → Prop
  | empty : IsReached [] .empty
  | apply {ops : List Operation} {r : Report} (h : IsReached ops r) (op : Operation) :
      IsReached (ops ++ [op]) (r.apply op)
  | merge {ops ops' : List Operation} {r s : Report} (hr : IsReached ops r)
      (hs : IsReached ops' s) : IsReached (ops ++ ops') (r.merge s)

/-- **A report depends on its word alone.** -/
theorem IsReached.eq_ofOperations {ops : List Operation} {r : Report} (h : IsReached ops r) :
    r = ofOperations ops := by
  induction h with
  | empty => rfl
  | apply _ op ih => rw [ofOperations_concat, ih]
  | merge _ _ hr hs => rw [ofOperations_append, ← hr, ← hs]

theorem isReached_ofOperations (ops : List Operation) : IsReached ops (ofOperations ops) := by
  induction ops using List.reverseRecOn with
  | nil => exact .empty
  | append_singleton ops op ih =>
    rw [ofOperations_concat]
    exact ih.apply op

/-! ## The word of a case -/

/-- **The word of a case** with problems: it is counted, its problems are added, and its time. -/
def caseOperations (id : TestId) (problems : List Problem) (nanoseconds : Nat) : List Operation :=
  .start :: problems.map (fun p => .add ⟨id, p.reason, p.message⟩) ++ [.took nanoseconds]

theorem ofOperations_caseOperations (id : TestId) (ps : List Problem) (n : Nat) :
    ofOperations (caseOperations id ps n) = (empty.record id ps).addDuration n := by
  rw [caseOperations, ofOperations_concat, ofOperations, List.foldl_cons, List.foldl_map]
  rfl

/-- The failures of a case are those of its problems that are failures. -/
theorem length_failures_caseOperations (id : TestId) (ps : List Problem) (n : Nat) :
    (ofOperations (caseOperations id ps n)).failures.length =
      (ps.filter (·.reason = .failed)).length := by
  rw [ofOperations_eq]
  simp [caseOperations, Operation.added?, List.filterMap_map, Function.comp_def,
    List.filter_map]

/-- Every problem of a case is recorded once. -/
theorem length_problems_caseOperations (id : TestId) (ps : List Problem) (n : Nat) :
    (ofOperations (caseOperations id ps n)).problems.length = ps.length := by
  rw [(perm_problems_ofOperations _).length_eq]
  simp [caseOperations, Operation.added?, List.filterMap_map]

end Report

/-! ## The problems of a case -/

theorem Problem.length_ofStage_le (reason : Reason) (found : Except (Exec.Caught Failure) Unit) :
    (ofStage reason found).length ≤ 1 := by
  cases found with
  | ok u => exact Nat.zero_le 1
  | error c => exact Nat.le_refl 1

/-- Only a body has failures. -/
theorem Problem.reason_ne_failed_of_mem_ofStage {reason : Reason} (hreason : reason ≠ .failed)
    {found : Except (Exec.Caught Failure) Unit} {p : Problem} (hp : p ∈ ofStage reason found) :
    p.reason ≠ .failed := by
  cases found with
  | ok u => cases hp
  | error c =>
    obtain rfl := List.mem_singleton.1 hp
    cases c with
    | failed f => exact hreason
    | panicked m => exact Reason.noConfusion

/-- **A case has two problems at most, one of which at most is a failure.** -/
theorem Suite.length_le_of_runStages (s : Suite σ) (module : String) (host : Host) (method : String)
    (body : Body σ) {ps : List Problem}
    (h : (s.runStages module host method body : Exec ε _).ending = .finished ps) :
    (ps.filter (·.reason = .failed)).length ≤ 1 ∧ ps.length ≤ 2 := by
  unfold runStages at h
  obtain ⟨built, -, h⟩ := Exec.finished_of_bind h
  rcases built with (e | m) | fresh
  · exact e.elim
  · obtain ⟨u, -, h⟩ := Exec.finished_of_bind h
    cases h
    exact ⟨Nat.zero_le 1, Nat.le_succ 1⟩
  · obtain ⟨ready, -, h⟩ := Exec.finished_of_bind h
    cases ready with
    | error c =>
      obtain ⟨p, rfl⟩ := problem_of_abandon h
      exact ⟨List.length_filter_le .., Nat.le_succ 1⟩
    | ok u =>
      obtain ⟨psBody, hbody, h⟩ := Exec.finished_of_bind h
      obtain ⟨psTearDown, htear, h⟩ := Exec.finished_of_bind h
      obtain ⟨v, -, h⟩ := Exec.finished_of_bind h
      cases h
      obtain ⟨ofBody, -, rfl⟩ := problems_of_runStage hbody
      obtain ⟨ofTearDown, -, rfl⟩ := problems_of_runStage htear
      have hbody := Problem.length_ofStage_le .failed ofBody
      have htear := Problem.length_ofStage_le .tearDown ofTearDown
      have hnone : (Problem.ofStage .tearDown ofTearDown).filter (·.reason = .failed) = [] := by
        rw [List.filter_eq_nil_iff]
        intro p hp
        simpa using Problem.reason_ne_failed_of_mem_ofStage (by decide) hp
      rw [List.filter_append, hnone, List.append_nil, List.length_append]
      exact ⟨Nat.le_trans (List.length_filter_le ..) hbody, Nat.add_le_add hbody htear⟩

namespace Registry

variable {r : Registry σ} {host : Host} {id : TestId} {ids : List TestId} {q report : Report}
  {ops : List Report.Operation} {words : List (List Report.Operation)}

/-! ## The word of a run -/

/-- **Is this the word of an id?**  It is that of a case with the problems of its stages. -/
def IsWordOf (r : Registry σ) (host : Host) (id : TestId) (ops : List Report.Operation) : Prop :=
  ∃ ps n, (r.stagesOf host id).ending = .finished ps ∧ ops = Report.caseOperations id ps n

theorem exists_word_of_single (h : (r.runIds host [id]).ending = .finished q) :
    ∃ ops, r.IsWordOf host id ops ∧ .ofOperations ops = q := by
  have hid := (exists_singles_of_runIds h).1 id (List.mem_singleton_self id)
  rw [r.runIds_single host hid] at h
  obtain ⟨ps, n, hps, rfl⟩ := record_of_runOne h
  exact ⟨_, ⟨ps, n, hps, rfl⟩, Report.ofOperations_caseOperations id ps n⟩

/-- **The word of a run** is that of its ids, one after the other. -/
theorem exists_words_of_runIds (h : (r.runIds host ids).ending = .finished report) :
    ∃ words, List.Forall₂ (r.IsWordOf host) (TestId.bySuite ids) words ∧
      report = .ofOperations words.flatten := by
  obtain ⟨-, qs, hqs, rfl⟩ := exists_singles_of_runIds h
  generalize TestId.bySuite ids = order at hqs ⊢
  clear h
  suffices hwords : ∃ words, List.Forall₂ (r.IsWordOf host) order words ∧
      words.map .ofOperations = qs by
    obtain ⟨words, hwords, rfl⟩ := hwords
    exact ⟨words, hwords, Report.mergeAll_ofOperations words⟩
  induction hqs with
  | nil => exact ⟨[], .nil, rfl⟩
  | cons hq _ ih =>
    obtain ⟨ops, hops, rfl⟩ := exists_word_of_single hq
    obtain ⟨words, hwords, rfl⟩ := ih
    exact ⟨ops :: words, .cons hops hwords, rfl⟩

theorem IsWordOf.length_le (h : r.IsWordOf host id ops) :
    (Report.ofOperations ops).failures.length ≤ 1 ∧
      (Report.ofOperations ops).problems.length ≤ 2 := by
  obtain ⟨ps, n, hps, rfl⟩ := h
  rw [Report.length_failures_caseOperations, Report.length_problems_caseOperations]
  obtain ⟨⟨module, suite⟩, -, hps⟩ := Exec.finished_of_bind hps
  obtain ⟨body, -, hps⟩ := Exec.finished_of_bind hps
  exact suite.length_le_of_runStages module host _ body hps

/-- What a word adds has its id. -/
theorem IsWordOf.id_of_add_mem (h : r.IsWordOf host id ops) {f : CaseFailure}
    (hf : .add f ∈ ops) : f.id = id := by
  obtain ⟨ps, n, -, rfl⟩ := h
  simp only [Report.caseOperations, List.mem_append, List.mem_cons, List.mem_map,
    List.not_mem_nil, or_false, reduceCtorEq, false_or] at hf
  obtain ⟨p, -, hf⟩ := hf
  cases hf
  rfl

/-- **Problems are bounded by cases.** -/
theorem length_le_of_words (h : List.Forall₂ (r.IsWordOf host) ids words) :
    (Report.ofOperations words.flatten).failures.length ≤ ids.length ∧
      (Report.ofOperations words.flatten).problems.length ≤ 2 * ids.length := by
  induction h with
  | nil => exact ⟨Nat.le_refl 0, Nat.le_refl 0⟩
  | cons hops _ ih =>
    obtain ⟨hfailures, hproblems⟩ := hops.length_le
    rw [List.flatten_cons, Report.ofOperations_append]
    simp only [Report.problems, Report.merge, List.length_append, List.length_cons] at *
    omega

end Registry

/-! ## Aggregation -/

namespace Report

/-- **What is so of all reports, and of those of runs.**  Merging is associative, and the empty
report is its identity.  If a word is cut, and the reports of its pieces are merged in some
bracketing, the result is the report of the word.  A report that steps and merges lead to counts
each start, holds each added record once and in order, failures and errors apart, and is successful
if there is none.  The report of a run is such a report; every case counts once, adds one failure
and two records at most, and all records have ids that were asked for. -/
theorem aggregation_laws :
    (∀ r s t : Report, (r.merge s).merge t = r.merge (s.merge t)) ∧
      (∀ r : Report, empty.merge r = r ∧ r.merge empty = r) ∧
      (∀ (pieces : List (List Operation)) (r : Report),
        IsMerged (pieces.map ofOperations) r → r = ofOperations pieces.flatten) ∧
      (∀ (ops : List Operation) (r : Report), IsReached ops r →
        r.testsRun = .ofNat (ops.count .start) ∧
          r.failures = (ops.filterMap (·.added?)).filter (·.reason = .failed) ∧
          r.errors = (ops.filterMap (·.added?)).filter (·.reason ≠ .failed) ∧
          r.duration = totalTime ops ∧
          (r.successful = true ↔ ∀ f, .add f ∉ ops)) ∧
      ∀ (σ : Type) (r : Registry σ) (host : Host) (ids : List TestId) (report : Report),
        (r.runIds host ids).ending = .finished report →
          (∃ ops, IsReached ops report) ∧ report.testsRun = .ofNat ids.length ∧
            (ids.length < UInt64.size →
              report.failures.length ≤ report.testsRun.toNat ∧
                report.failures.length + report.errors.length ≤ 2 * report.testsRun.toNat) ∧
            ∀ f ∈ report.problems, f.id ∈ ids := by
  refine ⟨merge_assoc, fun r => ⟨empty_merge r, merge_empty r⟩, ?pieces, ?reached, ?run⟩
  case pieces =>
    intro pieces r h
    rw [h.eq_mergeAll, mergeAll_ofOperations]
  case reached =>
    intro ops r h
    rw [h.eq_ofOperations, successful_ofOperations_iff, ofOperations_eq]
    exact ⟨rfl, rfl, rfl, rfl, .rfl⟩
  case run =>
    intro σ r host ids report h
    have hperm := TestId.perm_bySuite ids
    have hcount := Registry.testsRun_of_runIds h
    obtain ⟨words, hwords, rfl⟩ := Registry.exists_words_of_runIds h
    obtain ⟨hfailures, hproblems⟩ := Registry.length_le_of_words hwords
    rw [hperm.length_eq] at hfailures hproblems
    refine ⟨⟨_, isReached_ofOperations _⟩, hcount, fun hsize => ?_, fun f hf => ?_⟩
    · rw [hcount, UInt64.toNat_ofNat_of_lt' hsize, ← List.length_append]
      exact ⟨hfailures, hproblems⟩
    · -- A record is added by the word of some id, and has this id.
      have hadd := mem_filterMap_added_iff.1 ((perm_problems_ofOperations _).mem_iff.1 hf)
      obtain ⟨ops, hops, hadd⟩ := List.mem_flatten.1 hadd
      obtain ⟨id, hid, hword⟩ := exists_mem_of_forall₂ hwords ops hops
      rw [hword.id_of_add_mem hadd]
      exact hperm.mem_iff.1 hid

/-- A failure and an error of one case. -/
def twoProblems : List CaseFailure :=
  [⟨.ofParts "m" "A" "test_one", .failed, "boom"⟩,
    ⟨.ofParts "m" "A" "test_one", .panicked, "panicked"⟩]

/-- A word that is cut twice, within a case and between cases. -/
def cutWord : List (List Operation) :=
  [.start :: (twoProblems.take 1).map .add, (twoProblems.drop 1).map .add ++ [.took 3], [.start]]

/-- The pieces of a word are merged from the right, and a run of three cases has six problems. -/
theorem aggregation_laws_cutWord :
    IsMerged (cutWord.map ofOperations) ⟨2, twoProblems.take 1, twoProblems.drop 1, 3⟩ ∧
      (⟨2, twoProblems.take 1, twoProblems.drop 1, 3⟩ : Report) = ofOperations cutWord.flatten ∧
      (onceRegistry.runIds ⟨none⟩ onceIds).ending = .finished onceReport ∧
      onceReport.failures.length ≤ 3 ∧
      ∀ f ∈ onceReport.problems, f.id ∈ onceIds := by
  obtain ⟨-, -, hpieces, -, hrun⟩ := aggregation_laws
  have hmerged : IsMerged (cutWord.map ofOperations)
      ⟨2, twoProblems.take 1, twoProblems.drop 1, 3⟩ :=
    .merge (.one _) (.merge (.one _) (.one _))
  have honce : (onceRegistry.runIds ⟨none⟩ onceIds).ending = .finished onceReport := by
    decide +kernel
  obtain ⟨-, -, hbounds, hids⟩ := hrun Bool onceRegistry ⟨none⟩ onceIds onceReport honce
  exact ⟨hmerged, hpieces _ _ hmerged, honce, (hbounds (by decide)).1, hids⟩

end Report

end SuitePool
