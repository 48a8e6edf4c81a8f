import Mathlib.Data.List.Basic
import Mathlib.Tactic.Common
import SuitePool.Proofs.Wire.Records

/-!
# Merging reports

Merging adds up counts and times and puts records behind one another, so reports are a monoid and
every way to extend a report acts on the last part of a merge.  The time that cases took is no part
of what they amount to: `Report.untimed` leaves it out, and extending and merging respect that.

## Main definitions

* `Report.untimed`: a report without its duration.
* `Report.mergeAll`: many reports in one.

## Main results

* `Report.merge_assoc`, `Report.merge_empty`, `Report.empty_merge`
* `Report.untimed_merge`, `Report.untimed_mergeAll`: merging respects leaving out durations.
-/

namespace SuitePool.Report

/-! ## The monoid of reports -/

@[simp] theorem merge_empty (r : Report) : r.merge empty = r := by
  simp [merge, empty]

@[simp] theorem empty_merge (r : Report) : empty.merge r = r := by
  simp [merge, empty]

theorem merge_assoc (r s t : Report) : (r.merge s).merge t = r.merge (s.merge t) := by
  -- Counts are added modulo their size, which is associative, too.
  simp [merge, UInt64.add_assoc, Nat.add_assoc]

/-- **Many reports in one.** -/
def mergeAll (rs : List Report) : Report := rs.foldl merge empty

theorem foldl_merge (r : Report) (rs : List Report) : rs.foldl merge r = r.merge (mergeAll rs) := by
  induction rs generalizing r with
  | nil => exact (merge_empty r).symm
  | cons s rs ih =>
    -- Both folds go on from a report of their own.
    rw [mergeAll, List.foldl_cons, List.foldl_cons, ih (r.merge s), ih (empty.merge s),
      empty_merge, merge_assoc]

theorem mergeAll_cons (r : Report) (rs : List Report) :
    mergeAll (r :: rs) = r.merge (mergeAll rs) := by
  rw [mergeAll, List.foldl_cons, empty_merge, foldl_merge]

theorem mergeAll_append (rs ss : List Report) :
    mergeAll (rs ++ ss) = (mergeAll rs).merge (mergeAll ss) := by
  rw [mergeAll, List.foldl_append]
  exact foldl_merge _ ss

/-! ## Extending the last part of a merge -/

theorem startTest_merge (r s : Report) : (r.merge s).startTest = r.merge s.startTest := by
  simp [merge, startTest, UInt64.add_assoc]

theorem add_merge (r s : Report) (f : CaseFailure) : (r.merge s).add f = r.merge (s.add f) := by
  simp only [add]
  split_ifs <;> simp [merge]

theorem addDuration_merge (r s : Report) (n : Nat) :
    (r.merge s).addDuration n = r.merge (s.addDuration n) := by
  simp [merge, addDuration, Nat.add_assoc]

theorem foldl_add_merge {α : Type} (f : α → CaseFailure) (as : List α) (r s : Report) :
    as.foldl (fun r a => r.add (f a)) (r.merge s) =
      r.merge (as.foldl (fun r a => r.add (f a)) s) := by
  induction as generalizing s with
  | nil => rfl
  | cons a as ih => rw [List.foldl_cons, List.foldl_cons, add_merge, ih]

/-! ## Leaving out durations -/

/-- **A report without its duration.** -/
def untimed (r : Report) : Report := { r with duration := 0 }

/-- Only the duration of a report changes on its way. -/
@[simp] theorem untimed_received (r : Report) : r.received.untimed = r.untimed := rfl

theorem untimed_startTest (r : Report) : r.startTest.untimed = r.untimed.startTest := rfl

theorem untimed_add (r : Report) (f : CaseFailure) : (r.add f).untimed = r.untimed.add f := by
  simp only [add]
  split_ifs <;> rfl

theorem untimed_addDuration (r : Report) (n : Nat) : (r.addDuration n).untimed = r.untimed := rfl

theorem untimed_foldl_add {α : Type} (f : α → CaseFailure) (as : List α) (r : Report) :
    (as.foldl (fun r a => r.add (f a)) r).untimed =
      as.foldl (fun r a => r.add (f a)) r.untimed := by
  induction as generalizing r with
  | nil => rfl
  | cons a as ih => rw [List.foldl_cons, List.foldl_cons, ih, untimed_add]

theorem untimed_merge (r s : Report) : (r.merge s).untimed = r.untimed.merge s.untimed := rfl

theorem untimed_mergeAll (rs : List Report) :
    (mergeAll rs).untimed = mergeAll (rs.map untimed) := by
  induction rs with
  | nil => rfl
  | cons r rs ih => rw [List.map_cons, mergeAll_cons, mergeAll_cons, untimed_merge, ih]

end SuitePool.Report
