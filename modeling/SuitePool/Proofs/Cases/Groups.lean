import Mathlib.Data.List.Basic
import Mathlib.Data.List.Perm.Basic
import Mathlib.Tactic.Common
import SuitePool.Proofs.Cases.Discovered
import SuitePool.Proofs.Cases.Lifecycle

/-!
# The groups of ids

Grouping is a stable partition of ids by the paths of their suites.  The path of the suite of an id
is the text before its last dot, so every id with a dot belongs to one suite, and ids are grouped
unless one of them has no dot.  Each group holds the ids of its suite, in the order in which they
were given and as often as they were given, and the groups come in the order of the bytes of their
paths.

## Main definitions

* `TestId.HasPath`: the path of the suite of an id.

## Main results

* `TestId.suitePath?_eq_some_iff`: the path of the suite is found.
* `groupIds_eq_error_iff`: when ids are not grouped.
* `eq_filter_of_mem_groupIds`: what a group holds.
* `groupIds_laws`: grouping is a stable partition.
-/

namespace SuitePool

open Text

/-! ## Paths of suites -/

/-- **Is this the text before the last dot of an id**, the path of its suite? -/
def TestId.HasPath (id : TestId) (path : String) : Prop :=
  ∃ method : String, '.' ∉ method.toList ∧ id.text = path ++ "." ++ method

theorem splitAtLastDot_eq_some_iff {text before after : String} :
    splitAtLastDot text = some (before, after) ↔
      '.' ∉ after.toList ∧ text = before ++ "." ++ after := by
  constructor
  · intro h
    obtain ⟨⟨front, back⟩, hsplit, h⟩ := Option.map_eq_some_iff.1 h
    obtain ⟨rfl, rfl⟩ := Prod.mk.inj h
    obtain ⟨htext, hdot⟩ := splitLast_eq_some hsplit
    exact ⟨by rwa [String.toList_ofList], String.toList_inj.1 (by simp [htext])⟩
  · rintro ⟨hdot, rfl⟩
    exact splitAtLastDot_append hdot

/-- **The path of the suite is found**, and it is the only one. -/
theorem TestId.suitePath?_eq_some_iff {id : TestId} {path : String} :
    id.suitePath? = some path ↔ id.HasPath path := by
  rw [suitePath?, Option.map_eq_some_iff, HasPath]
  constructor
  · rintro ⟨⟨before, after⟩, hsplit, rfl⟩
    exact ⟨after, splitAtLastDot_eq_some_iff.1 hsplit⟩
  · rintro ⟨method, h⟩
    exact ⟨(path, method), splitAtLastDot_eq_some_iff.2 h, rfl⟩

instance (id : TestId) (path : String) : Decidable (id.HasPath path) :=
  decidable_of_iff _ TestId.suitePath?_eq_some_iff

theorem TestId.HasPath.unique {id : TestId} {path path' : String} (h : id.HasPath path)
    (h' : id.HasPath path') : path = path' := by
  rw [← suitePath?_eq_some_iff] at h h'
  exact Option.some.inj (h.symm.trans h')

/-! ## Ids that are not grouped -/

/-- **Ids are not grouped if one has no dot**, and the error names the first one. -/
theorem groupIds_eq_error_iff {ids : List TestId} {e : Error} :
    groupIds ids = .error e ↔ ∃ before id after, ids = before ++ id :: after ∧
      (∀ i ∈ before, '.' ∈ i.text.toList) ∧ '.' ∉ id.text.toList ∧
      e = .invalidTestId id.text := by
  have hdot {id : TestId} : id.suitePath?.isSome ↔ '.' ∈ id.text.toList := by
    rw [Option.isSome_iff_ne_none, Ne, TestId.suitePath?_eq_none_iff, not_not]
  constructor
  · intro h
    -- Some id has no dot, so there is a first one, and it is the one that is named.
    obtain ⟨id, hid, hpath, -⟩ := groupIds_eq_error h
    have hsome : (ids.find? fun i => i.suitePath?.isNone).isSome :=
      List.find?_isSome.2 ⟨id, hid, by rw [hpath]; rfl⟩
    obtain ⟨first, hfirst⟩ := Option.isSome_iff_exists.1 hsome
    obtain ⟨hnone, before, after, rfl, hbefore⟩ := List.find?_eq_some_iff_append.1 hfirst
    have hb : ∀ i ∈ before, i.suitePath?.isSome := fun i hi => by simpa using hbefore i hi
    have hn : first.suitePath? = none := Option.isNone_iff_eq_none.1 hnone
    rw [groupIds_of_first_dotless hb hn] at h
    exact ⟨before, first, after, rfl, fun i hi => hdot.1 (hb i hi),
      TestId.suitePath?_eq_none_iff.1 hn, (Except.error.inj h).symm⟩
  · rintro ⟨before, id, after, rfl, hb, hid, rfl⟩
    exact groupIds_of_first_dotless (fun i hi => hdot.2 (hb i hi))
      (TestId.suitePath?_eq_none_iff.2 hid)

theorem exists_groupIds_error_iff {ids : List TestId} :
    (∃ e, groupIds ids = .error e) ↔ ∃ id ∈ ids, '.' ∉ id.text.toList := by
  constructor
  · rintro ⟨e, h⟩
    obtain ⟨id, hid, hpath, -⟩ := groupIds_eq_error h
    exact ⟨id, hid, TestId.suitePath?_eq_none_iff.1 hpath⟩
  · rintro ⟨id, hid, hdot⟩
    cases h : groupIds ids with
    | error e => exact ⟨e, rfl⟩
    | ok groups =>
      have hsome := suitePath?_isSome_of_groupIds h id hid
      rw [TestId.suitePath?_eq_none_iff.2 hdot] at hsome
      cases hsome

/-! ## What groups hold -/

section Groups

variable {ids : List TestId} {groups : Groups}

/-- **Groups come in the order of their paths.** -/
theorem isOrdered_groupIds (h : groupIds ids = .ok groups) : groups.IsOrdered :=
  (ofSuite_foldlM_addId ids List.Pairwise.nil (by simp) h).1

/-- Groups with other paths hold no id of a suite. -/
theorem ofSuite_flatMap_of_ne {path : String} (hg : ∀ g ∈ groups, IsGroup g)
    (hne : ∀ g ∈ groups, g.1 ≠ path) : TestId.ofSuite path (groups.flatMap (·.2)) = [] := by
  rw [TestId.ofSuite, List.filter_eq_nil_iff]
  intro id hid
  obtain ⟨g, hgm, hid⟩ := List.mem_flatMap.1 hid
  rw [decide_eq_true_iff, (hg g hgm).suitePath hid]
  exact hne g hgm

/-- Of all ids that ordered groups hold, those of one suite are in its group. -/
theorem Groups.IsOrdered.ofSuite_flatMap (ho : groups.IsOrdered) (hg : ∀ g ∈ groups, IsGroup g)
    {g : String × List TestId} (hgm : g ∈ groups) :
    TestId.ofSuite g.1 (groups.flatMap (·.2)) = g.2 := by
  obtain ⟨before, after, rfl⟩ := List.append_of_mem hgm
  obtain ⟨-, hafter, hbefore⟩ := List.pairwise_append.1 ho
  have hafter := (List.pairwise_cons.1 hafter).1
  simp only [List.forall_mem_append, List.forall_mem_cons] at hg
  have hown : TestId.ofSuite g.1 g.2 = g.2 :=
    List.filter_eq_self.2 fun id hid => decide_eq_true (hg.2.1.suitePath hid)
  rw [List.flatMap_append, List.flatMap_cons, TestId.ofSuite_append, TestId.ofSuite_append, hown,
    ofSuite_flatMap_of_ne hg.1 fun b hb => Std.ne_of_lt (hbefore b hb g (List.mem_cons_self ..)),
    ofSuite_flatMap_of_ne hg.2.2 fun a ha => (Std.ne_of_lt (hafter a ha)).symm,
    List.append_nil, List.nil_append]

/-- **A group holds the ids of its suite**, in their order. -/
theorem eq_filter_of_mem_groupIds (h : groupIds ids = .ok groups) {g : String × List TestId}
    (hg : g ∈ groups) : g.2 = ids.filter fun id => id.HasPath g.1 := by
  have hown := (isOrdered_groupIds h).ofSuite_flatMap (isGroup_of_mem_groupIds h) hg
  rw [flatMap_groupIds h, TestId.ofSuite_bySuite,
    TestId.ofSuite_eq_filter (suitePath?_isSome_of_groupIds h)] at hown
  rw [← hown]
  exact List.filter_congr fun id _ => decide_eq_decide.2 TestId.suitePath?_eq_some_iff

/-- **Two ids are in one group exactly if they have the same suite.** -/
theorem exists_mem_groupIds_iff (h : groupIds ids = .ok groups) {a b : TestId} (ha : a ∈ ids)
    (hb : b ∈ ids) :
    (∃ g ∈ groups, a ∈ g.2 ∧ b ∈ g.2) ↔ ∃ path, a.HasPath path ∧ b.HasPath path := by
  constructor
  · rintro ⟨g, hg, ha, hb⟩
    have hgroup := (isGroup_of_mem_groupIds h g hg).2
    exact ⟨g.1, TestId.suitePath?_eq_some_iff.1 (hgroup a ha),
      TestId.suitePath?_eq_some_iff.1 (hgroup b hb)⟩
  · rintro ⟨path, hapath, hbpath⟩
    -- The group that holds the first id holds all ids of its suite.
    obtain ⟨g, hg, hag⟩ := List.mem_flatMap.1 ((perm_of_groupIds h).mem_iff.2 ha)
    have hpath := (isGroup_of_mem_groupIds h g hg).2 a hag
    obtain rfl := (TestId.suitePath?_eq_some_iff.1 hpath).unique hapath
    refine ⟨g, hg, hag, ?_⟩
    rw [eq_filter_of_mem_groupIds h hg, List.mem_filter, decide_eq_true_iff]
    exact ⟨hb, hbpath⟩

/-- **No suite is split**: ids of two groups are of different suites. -/
theorem pairwise_groupIds (h : groupIds ids = .ok groups) : groups.Pairwise fun g g' =>
    ∀ a ∈ g.2, ∀ b ∈ g'.2, ∀ path, a.HasPath path → ¬ b.HasPath path := by
  refine (isOrdered_groupIds h).imp_of_mem fun {g g'} hg hg' hlt a ha b hb path hap hbp => ?_
  have hga := TestId.suitePath?_eq_some_iff.1 ((isGroup_of_mem_groupIds h g hg).2 a ha)
  have hgb := TestId.suitePath?_eq_some_iff.1 ((isGroup_of_mem_groupIds h g' hg').2 b hb)
  exact Std.ne_of_lt hlt ((hga.unique hap).trans (hbp.unique hgb))

end Groups

/-! ## The partition -/

/-- **Grouping is a stable partition of ids by suites.**  It fails at the first id without a dot.
Otherwise the paths of the groups increase strictly, in the order of their bytes; each group holds
the ids with its path, in the order in which they were given; together the groups hold all ids; two
ids are in one group if they have one path, and never in two; and a group is grouped as itself. -/
theorem groupIds_laws (ids : List TestId) :
    ((∃ e, groupIds ids = .error e) ↔ ∃ id ∈ ids, '.' ∉ id.text.toList) ∧
    (∀ e, groupIds ids = .error e ↔ ∃ before id after, ids = before ++ id :: after ∧
      (∀ i ∈ before, '.' ∈ i.text.toList) ∧ '.' ∉ id.text.toList ∧
      e = .invalidTestId id.text) ∧
    ∀ groups, groupIds ids = .ok groups →
      groups.Pairwise (fun g g' => utf8 g.1 < utf8 g'.1) ∧
      (∀ g ∈ groups, g.2 ≠ [] ∧ g.2 = ids.filter fun id => id.HasPath g.1) ∧
      (groups.flatMap (·.2)).Perm ids ∧
      (∀ a ∈ ids, ∀ b ∈ ids,
        (∃ g ∈ groups, a ∈ g.2 ∧ b ∈ g.2) ↔ ∃ path, a.HasPath path ∧ b.HasPath path) ∧
      (groups.Pairwise fun g g' =>
        ∀ a ∈ g.2, ∀ b ∈ g'.2, ∀ path, a.HasPath path → ¬ b.HasPath path) ∧
      ∀ g ∈ groups, groupIds g.2 = .ok [g] := by
  refine ⟨exists_groupIds_error_iff, fun e => groupIds_eq_error_iff, fun groups h => ?_⟩
  have hgroups := isGroup_of_mem_groupIds h
  refine ⟨(isOrdered_groupIds h).imp utf8_lt_iff.2, fun g hg => ?_, perm_of_groupIds h,
    fun a ha b hb => exists_mem_groupIds_iff h ha hb, pairwise_groupIds h,
    fun g hg => groupIds_of_isGroup (hgroups g hg)⟩
  exact ⟨(hgroups g hg).1, eq_filter_of_mem_groupIds h hg⟩

/-- Ids with leading, trailing and repeated dots, of which two have one path. -/
theorem groupIds_dottedIds :
    ∃ groups, groupIds [⟨"m..a"⟩, ⟨".a"⟩, ⟨"m..b"⟩, ⟨"m."⟩, ⟨"m..a"⟩] = .ok groups ∧
      groups.map (·.1) = ["", "m", "m."] ∧
      ∀ g ∈ groups, g.1 = "m." → g.2 = [⟨"m..a"⟩, ⟨"m..b"⟩, ⟨"m..a"⟩] := by
  have h : groupIds [⟨"m..a"⟩, ⟨".a"⟩, ⟨"m..b"⟩, ⟨"m."⟩, ⟨"m..a"⟩] =
      .ok [("", [⟨".a"⟩]), ("m", [⟨"m."⟩]), ("m.", [⟨"m..a"⟩, ⟨"m..b"⟩, ⟨"m..a"⟩])] := by
    decide +kernel
  refine ⟨_, h, rfl, fun g hg hpath => ?_⟩
  rw [(((groupIds_laws _).2.2 _ h).2.1 g hg).2, hpath]
  decide +kernel

end SuitePool
