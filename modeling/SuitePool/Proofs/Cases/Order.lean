import Mathlib.Data.List.Basic
import Mathlib.Data.List.Perm.Basic
import Mathlib.Tactic.Common
import SuitePool.Proofs.Cases.Stages
import SuitePool.Proofs.Text.Order

/-!
# The order of a run

Ids are run in the order that stable sorting by the paths of their suites gives: suites come in the
order of the bytes of their paths, and the ids of one suite keep the order in which they were given.
No other order does both, so groups can be compared with it suite by suite.

## Main definitions

* `TestId.bySuite`: ids, stably sorted by the paths of their suites.
* `TestId.ofSuite`: the ids of one suite.
* `Groups.IsOrdered`: groups in the order of their paths.

## Main results

* `TestId.eq_bySuite`: what is sorted and keeps the order within suites.
* `flatMap_groupIds`: groups hold ids in the order of a run.
* `Registry.runIds_eq_foldlM_bySuite`: a run of ids.
* `Registry.runIds_congr`: only the order within suites counts.
-/

namespace SuitePool

open Text

variable {σ : Type}

namespace TestId

/-! ## Sorting -/

/-- The path of the suite; empty for an id without a dot. -/
def suitePath (id : TestId) : String := id.suitePath?.getD ""

/-- Do the bytes of the path of a suite come before those of another, or are they the same? -/
def suiteLe (a b : TestId) : Bool := decide (utf8 a.suitePath ≤ utf8 b.suitePath)

/-- **Ids, stably sorted by the paths of their suites.** -/
def bySuite (ids : List TestId) : List TestId := ids.mergeSort suiteLe

/-- The ids of one suite, in their order. -/
def ofSuite (path : String) (ids : List TestId) : List TestId :=
  ids.filter fun id => id.suitePath = path

theorem suiteLe_iff {a b : TestId} : suiteLe a b = true ↔ a.suitePath ≤ b.suitePath := by
  rw [suiteLe, decide_eq_true_iff, utf8_le_iff]

theorem suiteLe_trans (a b c : TestId) (hab : suiteLe a b = true) (hbc : suiteLe b c = true) :
    suiteLe a c = true := by
  rw [suiteLe_iff] at *
  exact String.le_trans hab hbc

theorem suiteLe_total (a b : TestId) : (suiteLe a b || suiteLe b a) = true := by
  rw [Bool.or_eq_true, suiteLe_iff, suiteLe_iff]
  exact String.le_total ..

theorem perm_bySuite (ids : List TestId) : (bySuite ids).Perm ids := List.mergeSort_perm ids _

theorem pairwise_bySuite (ids : List TestId) :
    (bySuite ids).Pairwise fun a b => a.suitePath ≤ b.suitePath :=
  (List.pairwise_mergeSort suiteLe_trans suiteLe_total ids).imp suiteLe_iff.1

theorem mem_ofSuite_iff {path : String} {ids : List TestId} {id : TestId} :
    id ∈ ofSuite path ids ↔ id ∈ ids ∧ id.suitePath = path := by
  rw [ofSuite, List.mem_filter, decide_eq_true_iff]

theorem ofSuite_append (path : String) (ids ids' : List TestId) :
    ofSuite path (ids ++ ids') = ofSuite path ids ++ ofSuite path ids' :=
  List.filter_append ..

theorem ofSuite_eq_filter {ids : List TestId} (h : ∀ id ∈ ids, id.suitePath?.isSome)
    (path : String) : ofSuite path ids = ids.filter (·.suitePath? = some path) := by
  refine List.filter_congr fun id hid => ?_
  obtain ⟨suite, hsuite⟩ := Option.isSome_iff_exists.1 (h id hid)
  simp [suitePath, hsuite]

/-- **Sorting is stable**: the ids of one suite keep their order. -/
theorem ofSuite_bySuite (path : String) (ids : List TestId) :
    ofSuite path (bySuite ids) = ofSuite path ids := by
  have hsorted : (ofSuite path ids).Pairwise fun a b => suiteLe a b = true := by
    refine List.pairwise_iff_forall_sublist.2 fun {a b} hab => ?_
    have ha := (mem_ofSuite_iff.1 (hab.subset (List.mem_cons_self ..))).2
    have hb := (mem_ofSuite_iff.1 (hab.subset (List.mem_cons_of_mem _ (List.mem_cons_self ..)))).2
    exact suiteLe_iff.2 (Std.le_of_eq (ha.trans hb.symm))
  have hsub : (ofSuite path ids).Sublist (bySuite ids) :=
    List.sublist_mergeSort suiteLe_trans suiteLe_total hsorted List.filter_sublist
  -- Both are of one length, and what is left out of the sorted ids is of other suites.
  have hfilter := hsub.filter fun id => decide (id.suitePath = path)
  rw [ofSuite, List.filter_filter] at hfilter
  simp only [Bool.and_self] at hfilter
  exact (hfilter.eq_of_length ((perm_bySuite ids).filter _).length_eq.symm).symm

/-- The first of sorted ids has the smallest path of those that are there. -/
theorem le_of_mem_ofSuite {path : String} {a b : TestId} {as : List TestId}
    (h : (a :: as).Pairwise fun a b => a.suitePath ≤ b.suitePath)
    (hb : b ∈ ofSuite path (a :: as)) : a.suitePath ≤ path := by
  obtain ⟨hmem, rfl⟩ := mem_ofSuite_iff.1 hb
  rcases List.mem_cons.1 hmem with rfl | hmem
  · exact String.le_refl _
  · exact List.rel_of_pairwise_cons h hmem

/-- Sorted ids with the same order within suites are the same. -/
theorem eq_of_ofSuite_eq {as bs : List TestId}
    (ha : as.Pairwise fun a b => a.suitePath ≤ b.suitePath)
    (hb : bs.Pairwise fun a b => a.suitePath ≤ b.suitePath)
    (h : ∀ path, ofSuite path as = ofSuite path bs) : as = bs := by
  induction as generalizing bs with
  | nil =>
    cases bs with
    | nil => rfl
    | cons b bs => exact absurd (h b.suitePath) (by simp [ofSuite])
  | cons a as ih =>
    cases bs with
    | nil => exact absurd (h a.suitePath) (by simp [ofSuite])
    | cons b bs =>
      -- Each of the first ids is found among the others, so neither path is below the other.
      have hab : a.suitePath ≤ b.suitePath := by
        refine le_of_mem_ofSuite (b := b) ha ?_
        rw [h]
        exact mem_ofSuite_iff.2 ⟨List.mem_cons_self .., rfl⟩
      have hba : b.suitePath ≤ a.suitePath := by
        refine le_of_mem_ofSuite (b := a) hb ?_
        rw [← h]
        exact mem_ofSuite_iff.2 ⟨List.mem_cons_self .., rfl⟩
      have hpath := String.le_antisymm hab hba
      have hfirst := h b.suitePath
      simp only [ofSuite, List.filter_cons, hpath, decide_true, if_true, List.cons.injEq] at hfirst
      obtain ⟨rfl, -⟩ := hfirst
      rw [ih ha.of_cons hb.of_cons fun path => ?_]
      have hrest := h path
      simp only [ofSuite, List.filter_cons] at hrest
      split_ifs at hrest
      · exact (List.cons.inj hrest).2
      · exact hrest

/-- **What is sorted and keeps the order within suites** is what stable sorting gives. -/
theorem eq_bySuite {as ids : List TestId} (ha : as.Pairwise fun a b => a.suitePath ≤ b.suitePath)
    (h : ∀ path, ofSuite path as = ofSuite path ids) : as = bySuite ids :=
  eq_of_ofSuite_eq ha (pairwise_bySuite ids) fun path => by rw [h, ofSuite_bySuite]

/-- An id may be moved past ids of other suites. -/
theorem ofSuite_cons_of_ne {id : TestId} {ids : List TestId}
    (h : ∀ i ∈ ids, i.suitePath ≠ id.suitePath) (path : String) :
    ofSuite path (id :: ids) = ofSuite path (ids ++ [id]) := by
  rw [← List.singleton_append, ofSuite_append, ofSuite_append]
  by_cases hid : id.suitePath = path
  · have hnone : ofSuite path ids = [] := by
      rw [ofSuite, List.filter_eq_nil_iff]
      intro i hi
      rw [decide_eq_true_iff, ← hid]
      exact h i hi
    rw [hnone, List.append_nil, List.nil_append]
  · have hnone : ofSuite path [id] = [] := by simp [ofSuite, hid]
    rw [hnone, List.append_nil, List.nil_append]

end TestId

/-! ## Groups -/

/-- **Are groups in the order of their paths?** -/
def Groups.IsOrdered (groups : Groups) : Prop := groups.Pairwise fun g g' => g.1 < g'.1

theorem IsGroup.suitePath {g : String × List TestId} (hg : IsGroup g) {id : TestId}
    (hid : id ∈ g.2) : id.suitePath = g.1 := by
  rw [TestId.suitePath, hg.2 id hid, Option.getD_some]

theorem fst_of_mem_addToGroup {suite : String} {id : TestId} {groups : Groups}
    {g : String × List TestId} (hg : g ∈ addToGroup suite id groups) :
    g.1 = suite ∨ ∃ g' ∈ groups, g'.1 = g.1 := by
  induction groups with
  | nil =>
    rw [addToGroup, List.mem_singleton] at hg
    exact .inl (by rw [hg])
  | cons g' groups ih =>
    obtain ⟨key, ids⟩ := g'
    rw [addToGroup] at hg
    split_ifs at hg with hlt heq
    · rcases List.mem_cons.1 hg with rfl | hg
      · exact .inl rfl
      · exact .inr ⟨g, hg, rfl⟩
    · rcases List.mem_cons.1 hg with rfl | hg
      · exact .inl heq.symm
      · exact .inr ⟨g, List.mem_cons_of_mem _ hg, rfl⟩
    · rcases List.mem_cons.1 hg with rfl | hg
      · exact .inr ⟨(key, ids), List.mem_cons_self .., rfl⟩
      · rcases ih hg with h | ⟨g'', hg'', h⟩
        · exact .inl h
        · exact .inr ⟨g'', List.mem_cons_of_mem _ hg'', h⟩

/-- **One more id keeps groups in order.** -/
theorem isOrdered_addToGroup (suite : String) (id : TestId) {groups : Groups}
    (h : groups.IsOrdered) : (addToGroup suite id groups).IsOrdered := by
  induction groups with
  | nil => exact List.pairwise_singleton ..
  | cons g groups ih =>
    obtain ⟨key, ids⟩ := g
    have hkey : ∀ g ∈ groups, key < g.1 := fun g hg => List.rel_of_pairwise_cons h hg
    rw [addToGroup]
    split_ifs with hlt heq
    · refine List.pairwise_cons.2 ⟨fun g hg => ?_, h⟩
      rcases List.mem_cons.1 hg with rfl | hg
      · exact hlt
      · exact String.lt_trans hlt (hkey g hg)
    · exact List.pairwise_cons.2 ⟨hkey, h.of_cons⟩
    · refine List.pairwise_cons.2 ⟨fun g hg => ?_, ih h.of_cons⟩
      rcases fst_of_mem_addToGroup hg with hg | ⟨g', hg', hg⟩
      · rw [hg]
        exact Std.lt_of_le_of_ne (String.not_lt.1 hlt) (Ne.symm heq)
      · rw [← hg]
        exact hkey g' hg'

/-- **One more id comes behind those of its suite.** -/
theorem ofSuite_addToGroup {suite : String} {id : TestId} (hid : id.suitePath = suite)
    {groups : Groups} (ho : groups.IsOrdered) (hg : ∀ g ∈ groups, IsGroup g) (path : String) :
    TestId.ofSuite path ((addToGroup suite id groups).flatMap (·.2)) =
      TestId.ofSuite path (groups.flatMap (·.2) ++ [id]) := by
  induction groups with
  | nil => rfl
  | cons g groups ih =>
    obtain ⟨key, ids⟩ := g
    have hkey : ∀ g ∈ groups, key < g.1 := fun g hg => List.rel_of_pairwise_cons ho hg
    have hgroups : ∀ g ∈ groups, IsGroup g := fun g h => hg g (List.mem_cons_of_mem _ h)
    -- Groups with greater paths hold no id of the suite.
    have hothers : suite ≤ key → ∀ i ∈ groups.flatMap (·.2), i.suitePath ≠ id.suitePath := by
      intro hle i hi
      obtain ⟨g, hgm, hi⟩ := List.mem_flatMap.1 hi
      rw [(hgroups g hgm).suitePath hi, hid]
      exact (Std.ne_of_lt (Std.lt_of_le_of_lt hle (hkey g hgm))).symm
    rw [addToGroup]
    split_ifs with hlt heq
    · rw [List.flatMap_cons, List.singleton_append]
      refine TestId.ofSuite_cons_of_ne (fun i hi => ?_) path
      rw [List.flatMap_cons, List.mem_append] at hi
      rcases hi with hi | hi
      · rw [(hg _ (List.mem_cons_self ..)).suitePath hi, hid]
        exact (Std.ne_of_lt hlt).symm
      · exact hothers (Std.le_of_lt hlt) i hi
    · rw [List.flatMap_cons, List.flatMap_cons, List.append_assoc, List.append_assoc,
        List.singleton_append, TestId.ofSuite_append, TestId.ofSuite_append,
        TestId.ofSuite_cons_of_ne (hothers (heq ▸ String.le_refl _))]
    · rw [List.flatMap_cons, List.flatMap_cons, List.append_assoc, TestId.ofSuite_append,
        TestId.ofSuite_append, ih ho.of_cons hgroups]

theorem ofSuite_foldlM_addId (ids : List TestId) {before groups : Groups}
    (ho : before.IsOrdered) (hb : ∀ g ∈ before, IsGroup g)
    (h : ids.foldlM addId before = .ok groups) :
    groups.IsOrdered ∧ ∀ path, TestId.ofSuite path (groups.flatMap (·.2)) =
      TestId.ofSuite path (before.flatMap (·.2) ++ ids) := by
  induction ids generalizing before with
  | nil =>
    cases h
    exact ⟨ho, fun path => by rw [List.append_nil]⟩
  | cons id ids ih =>
    rw [List.foldlM_cons, addId] at h
    cases hid : id.suitePath? with
    | none => rw [hid] at h; cases h
    | some suite =>
      rw [hid] at h
      have hpath : id.suitePath = suite := by rw [TestId.suitePath, hid, Option.getD_some]
      obtain ⟨hordered, hsame⟩ := ih (isOrdered_addToGroup suite id ho)
        (isGroup_of_mem_addToGroup hid hb) h
      refine ⟨hordered, fun path => ?_⟩
      rw [hsame, TestId.ofSuite_append, ofSuite_addToGroup hpath ho hb, ← TestId.ofSuite_append,
        List.append_assoc, List.singleton_append]

/-- Groups in the order of their paths hold sorted ids. -/
theorem Groups.IsOrdered.pairwise_flatMap {groups : Groups} (ho : groups.IsOrdered)
    (hg : ∀ g ∈ groups, IsGroup g) :
    (groups.flatMap (·.2)).Pairwise fun a b => a.suitePath ≤ b.suitePath := by
  refine List.pairwise_flatMap.2 ⟨fun g hgm => ?_, ?_⟩
  · refine List.pairwise_of_forall_mem_list fun a ha b hb => ?_
    exact Std.le_of_eq (((hg g hgm).suitePath ha).trans ((hg g hgm).suitePath hb).symm)
  · refine List.Pairwise.imp_of_mem (fun {g g'} hgm hgm' hlt a ha b hb => ?_) ho
    rw [(hg g hgm).suitePath ha, (hg g' hgm').suitePath hb]
    exact Std.le_of_lt hlt

/-- **Groups hold ids in the order of a run.** -/
theorem flatMap_groupIds {ids : List TestId} {groups : Groups} (h : groupIds ids = .ok groups) :
    groups.flatMap (·.2) = TestId.bySuite ids := by
  obtain ⟨ho, hsame⟩ := ofSuite_foldlM_addId ids List.Pairwise.nil (by simp) h
  exact TestId.eq_bySuite (ho.pairwise_flatMap (isGroup_of_mem_groupIds h)) hsame

/-- Ids are grouped if each has a dot. -/
theorem exists_groupIds {ids : List TestId} (h : ∀ id ∈ ids, id.suitePath?.isSome) :
    ∃ groups, groupIds ids = .ok groups := by
  cases hg : groupIds ids with
  | ok groups => exact ⟨groups, rfl⟩
  | error e =>
    obtain ⟨id, hid, hpath, -⟩ := groupIds_eq_error hg
    have hsome := h id hid
    rw [hpath] at hsome
    cases hsome

namespace Registry

/-- **A run of ids is a run of each of them**, in the order of a run. -/
theorem runIds_eq_foldlM_bySuite (r : Registry σ) (host : Host) {ids : List TestId}
    (h : ∀ id ∈ ids, id.suitePath?.isSome) :
    r.runIds host ids = (TestId.bySuite ids).foldlM (r.runOne host) .empty := by
  obtain ⟨groups, hg⟩ := exists_groupIds h
  rw [r.runIds_eq_foldlM host hg, flatMap_groupIds hg]

/-- **Only the order within suites counts.** -/
theorem runIds_congr (r : Registry σ) (host : Host) {ids ids' : List TestId}
    (h : ∀ id ∈ ids, id.suitePath?.isSome)
    (hsame : ∀ path, ids'.filter (·.suitePath? = path) = ids.filter (·.suitePath? = path)) :
    r.runIds host ids' = r.runIds host ids := by
  -- The ids without a dot are the same on both sides, and there are none.
  have h' : ∀ id ∈ ids', id.suitePath?.isSome := by
    intro id hid
    rw [Option.isSome_iff_ne_none]
    intro hnone
    have hmem : id ∈ ids'.filter (·.suitePath? = none) := by simp [hid, hnone]
    rw [hsame, List.mem_filter] at hmem
    have hsome := h id hmem.1
    rw [hnone] at hsome
    cases hsome
  have horder : TestId.bySuite ids' = TestId.bySuite ids := by
    refine TestId.eq_bySuite (TestId.pairwise_bySuite ids') fun path => ?_
    rw [TestId.ofSuite_bySuite, TestId.ofSuite_eq_filter h', TestId.ofSuite_eq_filter h, hsame]
  rw [r.runIds_eq_foldlM_bySuite host h', r.runIds_eq_foldlM_bySuite host h, horder]

end Registry

end SuitePool
