import Mathlib.Data.List.Basic
import Mathlib.Data.List.Forall2
import Mathlib.Tactic.Common
import SuitePool.Proofs.Exec
import SuitePool.Proofs.Report
import SuitePool.Run

/-!
# Running suite by suite

A run of ids is made of runs of its groups.  A case only ever extends the report it is given, so
running is a homomorphism for merging: a group adds to any report what it comes to alone.  A run
that finishes is therefore the merge of the runs of its groups, each alone, and a run that fails
fails with the error of its first failing group.

## Main definitions

* `IsGroup`: ids of one suite.

## Main results

* `isGroup_of_mem_groupIds`, `groupIds_of_isGroup`: grouping a group again changes nothing.
* `groupIds_eq_error`: grouping fails at an id without a dot.
* `Registry.runIds_of_isGroup`: a group alone.
* `Registry.runIds_finished`, `Registry.runIds_failed`, `Registry.runIds_of_first_failed`: what a
  run is made of.
-/

namespace SuitePool

variable {σ ε : Type}

/-! ## Groups -/

/-- **Are these ids of the one suite they are grouped under?** -/
def IsGroup (g : String × List TestId) : Prop :=
  g.2 ≠ [] ∧ ∀ id ∈ g.2, id.suitePath? = some g.1

theorem isGroup_of_mem_addToGroup {suite : String} {id : TestId} (hid : id.suitePath? = some suite)
    {groups : Groups} (h : ∀ g ∈ groups, IsGroup g) :
    ∀ g ∈ addToGroup suite id groups, IsGroup g := by
  have hone : IsGroup (suite, [id]) := ⟨by simp, by simpa using hid⟩
  induction groups with
  | nil => simpa [addToGroup] using hone
  | cons g groups ih =>
    obtain ⟨key, ids⟩ := g
    rw [List.forall_mem_cons] at h
    rw [addToGroup]
    -- The id opens a group before this one, joins it, or goes on to the others.
    split_ifs with hlt heq
    · rw [List.forall_mem_cons, List.forall_mem_cons]
      exact ⟨hone, h⟩
    · subst heq
      rw [List.forall_mem_cons]
      refine ⟨⟨by simp, ?_⟩, h.2⟩
      intro i hi
      rcases List.mem_append.1 hi with hi | hi
      · exact h.1.2 i hi
      · rw [List.mem_singleton.1 hi, hid]
    · rw [List.forall_mem_cons]
      exact ⟨h.1, ih h.2⟩

theorem isGroup_of_mem_foldlM (ids : List TestId) {before groups : Groups}
    (h : ∀ g ∈ before, IsGroup g) (hf : ids.foldlM addId before = .ok groups) :
    ∀ g ∈ groups, IsGroup g := by
  induction ids generalizing before with
  | nil =>
    cases hf
    exact h
  | cons id ids ih =>
    rw [List.foldlM_cons, addId] at hf
    cases hid : id.suitePath? with
    | none => rw [hid] at hf; cases hf
    | some suite =>
      rw [hid] at hf
      exact ih (isGroup_of_mem_addToGroup hid h) hf

/-- **Grouping yields groups.** -/
theorem isGroup_of_mem_groupIds {ids : List TestId} {groups : Groups}
    (h : groupIds ids = .ok groups) : ∀ g ∈ groups, IsGroup g :=
  isGroup_of_mem_foldlM ids (by simp) h

theorem foldlM_addId_same {suite : String} (ids : List TestId) (before : List TestId)
    (h : ∀ id ∈ ids, id.suitePath? = some suite) :
    ids.foldlM addId [(suite, before)] = .ok [(suite, before ++ ids)] := by
  induction ids generalizing before with
  | nil => simp [pure, Except.pure]
  | cons id ids ih =>
    rw [List.forall_mem_cons] at h
    -- There is no other group to be found before it.
    rw [List.foldlM_cons, addId, h.1]
    simp only [addToGroup, String.lt_irrefl, if_false, if_true]
    rw [← List.singleton_append (l := ids), ← List.append_assoc]
    exact ih (before ++ [id]) h.2

/-- **A group is grouped as itself.** -/
theorem groupIds_of_isGroup {g : String × List TestId} (h : IsGroup g) :
    groupIds g.2 = .ok [g] := by
  obtain ⟨suite, ids⟩ := g
  obtain ⟨hne, hids⟩ := h
  cases ids with
  | nil => exact absurd rfl hne
  | cons id ids =>
    rw [List.forall_mem_cons] at hids
    rw [groupIds, List.foldlM_cons, addId, hids.1]
    exact foldlM_addId_same ids [id] hids.2

/-- **Grouping fails at an id without a dot**, and names it. -/
theorem groupIds_eq_error {ids : List TestId} {e : Error} (h : groupIds ids = .error e) :
    ∃ id ∈ ids, id.suitePath? = none ∧ e = .invalidTestId id.text := by
  unfold groupIds at h
  -- Whether grouping fails does not depend on the groups so far.
  generalize ([] : Groups) = before at h
  induction ids generalizing before with
  | nil => cases h
  | cons id ids ih =>
    rw [List.foldlM_cons, addId] at h
    cases hid : id.suitePath? with
    | none =>
      rw [hid] at h
      cases h
      exact ⟨id, List.mem_cons_self .., hid, rfl⟩
    | some suite =>
      rw [hid] at h
      obtain ⟨i, hi, h⟩ := ih _ h
      exact ⟨i, List.mem_cons_of_mem _ hi, h⟩

theorem suitePath?_isSome_of_groupIds {ids : List TestId} {groups : Groups}
    (h : groupIds ids = .ok groups) : ∀ id ∈ ids, id.suitePath?.isSome := by
  unfold groupIds at h
  generalize ([] : Groups) = before at h
  induction ids generalizing before with
  | nil => simp
  | cons id ids ih =>
    rw [List.foldlM_cons, addId] at h
    cases hid : id.suitePath? with
    | none => rw [hid] at h; cases h
    | some suite =>
      rw [hid] at h
      rw [List.forall_mem_cons]
      exact ⟨by simp [hid], ih _ h⟩

/-! ## Extending a merge -/

/-- A fold whose steps act on the last part of a merge does so itself. -/
theorem foldlM_merge {α : Type} {f : Report → α → Exec ε Report} {r : Report} (as : List α)
    (h : ∀ q, ∀ a ∈ as, f (r.merge q) a = r.merge <$> f q a) (q : Report) :
    as.foldlM f (r.merge q) = r.merge <$> as.foldlM f q := by
  induction as generalizing q with
  | nil => simp
  | cons a as ih =>
    -- What stands in front is moved past the first step, and then past the others.
    rw [List.foldlM_cons, List.foldlM_cons, h q a (List.mem_cons_self ..), map_bind, bind_map_left]
    exact bind_congr fun q => ih (fun q a ha => h q a (List.mem_cons_of_mem _ ha)) q

/-- **A case acts on the last part of a merge.** -/
theorem Suite.runCase_merge (s : Suite σ) (module : String) (host : Host) (method : String)
    (body : Body σ) (id : TestId) (r q : Report) :
    (s.runCase module host method body id (r.merge q) : Exec ε Report) =
      r.merge <$> s.runCase module host method body id q := by
  unfold runCase
  rw [map_bind]
  apply bind_congr
  rintro ⟨problems, elapsed⟩
  rw [map_pure]
  dsimp only
  rw [Report.startTest_merge,
    Report.foldl_add_merge (fun p : Problem => ⟨id, p.reason, p.message⟩),
    Report.addDuration_merge]

namespace Registry

theorem runId_merge (module : String) (s : Suite σ) (host : Host) (r q : Report) (id : TestId) :
    runId module s host (r.merge q) id = r.merge <$> runId module s host q id := by
  unfold runId
  rw [map_bind]
  exact bind_congr fun body => s.runCase_merge module host _ body id r q

theorem runGroup_merge (r : Registry σ) (host : Host) (p q : Report)
    (g : String × List TestId) :
    r.runGroup host (p.merge q) g = p.merge <$> r.runGroup host q g := by
  unfold runGroup
  rw [map_bind]
  exact bind_congr fun s =>
    foldlM_merge g.2 (fun q id _ => runId_merge s.1 s.2 host p q id) q

/-! ## Runs of groups -/

/-- **A group adds to a report what it comes to alone.** -/
theorem foldlM_runGroup_cons (r : Registry σ) (host : Host) (g : String × List TestId)
    (groups : Groups) :
    (g :: groups).foldlM (r.runGroup host) .empty =
      r.runGroup host .empty g >>= fun p => p.merge <$> groups.foldlM (r.runGroup host) .empty := by
  rw [List.foldlM_cons]
  apply bind_congr
  intro p
  -- The others go on from the report of the first group, which is itself merged with nothing.
  rw [← foldlM_merge groups (fun q g _ => r.runGroup_merge host p q g), Report.merge_empty]

/-- **A group alone.** -/
theorem runIds_of_isGroup (r : Registry σ) (host : Host) {g : String × List TestId}
    (hg : IsGroup g) : r.runIds host g.2 = r.runGroup host .empty g := by
  rw [runIds, groupIds_of_isGroup hg]
  show pure [g] >>= (fun groups => groups.foldlM (r.runGroup host) .empty) = _
  rw [pure_bind, List.foldlM_cons]
  exact bind_pure _

variable {r : Registry σ} {host : Host} {ids : List TestId} {groups : Groups}

theorem runIds_of_groupIds (hg : groupIds ids = .ok groups) :
    r.runIds host ids = groups.foldlM (r.runGroup host) .empty := by
  rw [runIds, hg]
  exact pure_bind ..

/-- **A run that finishes merges what its groups come to**, each alone. -/
theorem runIds_finished (hg : groupIds ids = .ok groups) {report : Report}
    (h : (r.runIds host ids).ending = .finished report) :
    ∃ reports, List.Forall₂ (fun g q => (r.runIds host g.2).ending = .finished q) groups reports ∧
      report = .mergeAll reports := by
  rw [runIds_of_groupIds hg] at h
  have hgroups := isGroup_of_mem_groupIds hg
  -- From here on the groups count, and not the ids that they were made of.
  clear hg
  induction groups generalizing report with
  | nil =>
    cases h
    exact ⟨[], .nil, rfl⟩
  | cons g groups ih =>
    rw [List.forall_mem_cons] at hgroups
    rw [foldlM_runGroup_cons, ← runIds_of_isGroup r host hgroups.1] at h
    obtain ⟨p, hp, h⟩ := Exec.finished_of_bind h
    obtain ⟨q, hq, h⟩ := Exec.finished_of_map h
    obtain ⟨reports, hr, rfl⟩ := ih hq hgroups.2
    exact ⟨p :: reports, .cons hp hr, by rw [← h, Report.mergeAll_cons]⟩

/-- **A run that fails fails with its first failing group.** -/
theorem runIds_failed (hg : groupIds ids = .ok groups) {e : Error}
    (h : (r.runIds host ids).ending = .failed e) :
    ∃ before g after, groups = before ++ g :: after ∧
      (∀ b ∈ before, ∃ q, (r.runIds host b.2).ending = .finished q) ∧
      (r.runIds host g.2).ending = .failed e := by
  rw [runIds_of_groupIds hg] at h
  have hgroups := isGroup_of_mem_groupIds hg
  clear hg
  induction groups with
  | nil => cases h
  | cons g groups ih =>
    rw [List.forall_mem_cons] at hgroups
    rw [foldlM_runGroup_cons, ← runIds_of_isGroup r host hgroups.1] at h
    -- The first group fails alone, or it finishes and one behind it is the first to fail.
    rcases Exec.failed_of_bind h with hf | ⟨p, hp, hf⟩
    · exact ⟨[], g, groups, rfl, by simp, hf⟩
    · obtain ⟨before, g', after, rfl, hb, hf⟩ := ih (Exec.failed_of_map hf) hgroups.2
      refine ⟨g :: before, g', after, rfl, ?_, hf⟩
      rw [List.forall_mem_cons]
      exact ⟨⟨p, hp⟩, hb⟩

/-- **A run fails with its first failing group.** -/
theorem runIds_of_first_failed {before after : Groups} {g : String × List TestId}
    (hg : groupIds ids = .ok (before ++ g :: after))
    (hb : ∀ b ∈ before, ∃ q, (r.runIds host b.2).ending = .finished q) {e : Error}
    (hf : (r.runIds host g.2).ending = .failed e) : (r.runIds host ids).ending = .failed e := by
  rw [runIds_of_groupIds hg]
  have hgroups := isGroup_of_mem_groupIds hg
  clear hg
  induction before with
  | nil =>
    rw [List.nil_append, List.forall_mem_cons] at hgroups
    rw [runIds_of_isGroup r host hgroups.1] at hf
    rw [List.nil_append, foldlM_runGroup_cons, Exec.ending_bind_of_failed hf]
  | cons b before ih =>
    rw [List.cons_append, List.forall_mem_cons] at hgroups
    rw [List.forall_mem_cons] at hb
    obtain ⟨q, hq⟩ := hb.1
    rw [runIds_of_isGroup r host hgroups.1] at hq
    rw [List.cons_append, foldlM_runGroup_cons, Exec.ending_bind_of_finished hq,
      ← bind_pure_comp]
    exact Exec.ending_bind_of_failed (ih hb.2 hgroups.2) _

end Registry

end SuitePool
