import Mathlib.Data.List.Basic
import Mathlib.Data.List.Forall2
import Mathlib.Tactic.Common
import SuitePool.Proofs.Cases.Stages
import SuitePool.Proofs.Pool.Handed
import SuitePool.Proofs.Session

/-!
# The verdict of a forked run

A forked run finds suite files, has its workers discover ids in them, and has them run the groups of
these ids.  In whatever order slots take and finish jobs, the run comes to a report without problems
exactly if every file is discovered, and every case of every id passes, in the worker of the slot
that was handed the file or the group.  Nothing is assumed of suite code but that tasks are quiet:
cases may depend on the worker they run in, and may end it.

## Main definitions

* `Session.ForkedRun`: a forked run under some order of moves, and what it comes to.
* `Session.DiscoversAt`: ids are discovered at the slots that files are handed to.
* `Session.PassesAt`: all cases pass at the slots that they are handed to.

## Main results

* `readAnswer_discovery_iff`, `readAnswer_run_iff`: what the answers of workers mean.
* `Report.successful_mergeAll`: merging drops no problem.
* `Session.ForkedRun.successful_iff`: the verdict of a forked run is right.
-/

namespace SuitePool

open Pool Text

variable {σ : Type}

/-! ## What answers mean -/

section Answers

variable [Wording] {site : Site σ} {processors i : Nat} {a : Answer}

/-- **A worker answers with the ids of a file** exactly if it discovers them. -/
theorem readAnswer_discovery_iff {file : Path} {modulePath : List Path}
    (hq : (Task.discoverFile file modulePath).IsQuiet (site.forSlot i))
    (ha : answerAt (ownProgram processors site) i (.discoverFile file modulePath) = some a)
    {ids : List TestId} :
    Crew.readAnswer Crew.readIds a = .ok ids ↔
      (Task.discoverFile file modulePath).IsWritable ∧
        (site.registry.discoverFile site.tree (.ofSlot i) modulePath file).ending =
          .finished ids := by
  by_cases hw : (Task.discoverFile file modulePath).IsWritable
  · rw [answerAt_ownProgram processors hq hw, Task.reply?_discoverFile, Option.some.injEq] at ha
    have hslot : (site.forSlot i).registry.discoverFile (site.forSlot i).tree (site.forSlot i).host
        modulePath file = site.registry.discoverFile site.tree (.ofSlot i) modulePath file := rfl
    rw [hslot] at ha
    subst ha
    cases (site.registry.discoverFile site.tree (.ofSlot i) modulePath file).ending with
    | finished found => simp [Crew.readAnswer, Reply.result, Crew.readIds_toJson, hw]
    | failed | panicked | exited => simp [Crew.readAnswer, Reply.result, Pool.failure]
  · rw [answerAt_unwritable processors hw, Option.some.injEq] at ha
    subst ha
    simp [Crew.readAnswer, Pool.failure, hw]

/-- **A worker answers with a report without problems** exactly if its run succeeds. -/
theorem readAnswer_run_iff {ids : List TestId}
    (hq : (Task.runTestIds ids).IsQuiet (site.forSlot i))
    (ha : answerAt (ownProgram processors site) i (.runTestIds ids) = some a) :
    (∃ q, Crew.readAnswer Crew.readReport a = .ok q ∧ q.successful = true) ↔
      (site.registry.runIds (.ofSlot i) ids).Succeeds := by
  rw [answerAt_ownProgram processors hq (Task.isWritable_runTestIds ids),
    Task.reply?_runTestIds, Option.some.injEq] at ha
  have hslot : (site.forSlot i).registry.runIds (site.forSlot i).host ids =
      site.registry.runIds (.ofSlot i) ids := rfl
  rw [hslot] at ha
  subst ha
  unfold Exec.Succeeds
  cases (site.registry.runIds (.ofSlot i) ids).ending with
  | finished q =>
    have hsame : q.received.successful = q.successful := rfl
    simp [Crew.readAnswer, Reply.result, Crew.readReport_stored, hsame]
  | failed | panicked | exited => simp [Crew.readAnswer, Reply.result, Pool.failure]

end Answers

namespace Report

theorem successful_merge (r s : Report) :
    (r.merge s).successful = true ↔ r.successful = true ∧ s.successful = true := by
  simp only [successful, merge, Bool.and_eq_true, List.isEmpty_iff, List.append_eq_nil_iff]
  tauto

/-- **Merging drops no problem.** -/
theorem successful_mergeAll (rs : List Report) :
    (mergeAll rs).successful = true ↔ ∀ r ∈ rs, r.successful = true := by
  induction rs with
  | nil => simp [mergeAll, successful, empty]
  | cons r rs ih => rw [mergeAll_cons, successful_merge, ih, List.forall_mem_cons]

end Report

/-! ## Forked runs -/

namespace Session

/-- **A forked run under some order of moves**, and what it comes to: the files are found, the pool
is given the tasks of the discovery, and when it has come to ids the pool is given the tasks of the
run. -/
inductive ForkedRun [Wording] (s : Session σ) (paths : List Path) :
    List Move → Except Error Report → Prop where
  /-- No files are found. -/
  | unfound {e : Error} (hf : s.findFiles paths = .error e) : ForkedRun s paths [] (.error e)
  /-- The discovery comes to an error. -/
  | undiscovered {files : List Path} {moves : List Move} {p : Pool} {e : Error}
      (hf : s.findFiles paths = .ok files)
      (ht : submittedTasks moves = discoveryTasks files s.settings.modulePath)
      (hr : (ofSize s.poolSize).run (ownProgram s.processors s.site) moves = some p)
      (ho : forkedDiscovery? (Crew.callNumbers 0 (discoveryTasks files s.settings.modulePath)) p =
        some (.error e)) : ForkedRun s paths moves (.error e)
  /-- The discovery comes to ids, and these are run. -/
  | ran {files : List Path} {before after : List Move} {p q : Pool} {ids : List TestId}
      {o : Except Error Report} (hf : s.findFiles paths = .ok files)
      (ht : submittedTasks before = discoveryTasks files s.settings.modulePath)
      (hr : (ofSize s.poolSize).run (ownProgram s.processors s.site) before = some p)
      (ho : forkedDiscovery? (Crew.callNumbers 0 (discoveryTasks files s.settings.modulePath)) p =
        some (.ok ids))
      (ht' : submittedTasks after = runTasksOf ids)
      (hr' : p.run (ownProgram s.processors s.site) after = some q)
      (ho' : forkedRun? ids (Crew.callNumbers files.length (runTasksOf ids)) q = some o) :
      ForkedRun s paths (before ++ after) o

/-- **Are these the ids of files**, each discovered in the worker of a slot? -/
structure DiscoversAt (s : Session σ) (slot : Nat → Nat) (files : List Path)
    (found : List (List TestId)) : Prop where
  /-- Each file has ids, perhaps none. -/
  length : found.length = files.length
  /-- A file that can be told to a worker is discovered by the one of its slot. -/
  discovers : ∀ (k : Nat) (file : Path) (ids : List TestId), files[k]? = some file →
    found[k]? = some ids → (Task.discoverFile file s.settings.modulePath).IsWritable ∧
      (s.site.registry.discoverFile s.site.tree (.ofSlot (slot k)) s.settings.modulePath
        file).ending = .finished ids

/-- Do the cases of groups pass at the slots that the groups are handed to?  The jobs of the groups
have the numbers from `first` on. -/
def GroupsPassAt (s : Session σ) (slot : Nat → Nat) (first : Nat) (groups : Groups) : Prop :=
  ∀ (k : Nat) (g : String × List TestId), groups[k]? = some g → ∀ id ∈ g.2,
    s.site.registry.Passes (.ofSlot (slot (first + k))) id

/-- **Do all cases pass at the slots that they are handed to?**  Files are found, and all are
discovered; then the case of every id passes in the worker of the slot that runs its group.  The
jobs of files have the first numbers, and those of groups the next ones. -/
def PassesAt (s : Session σ) (paths : List Path) (slot : Nat → Nat) : Prop :=
  ∃ files found groups, s.findFiles paths = .ok files ∧ s.DiscoversAt slot files found ∧
    groupIds found.flatten = .ok groups ∧ s.GroupsPassAt slot files.length groups

/-- Ids are discovered at slots in one way only. -/
theorem DiscoversAt.unique {s : Session σ} {slot : Nat → Nat} {files : List Path}
    {found found' : List (List TestId)} (h : s.DiscoversAt slot files found)
    (h' : s.DiscoversAt slot files found') : found = found' := by
  apply List.ext_getElem (h.length.trans h'.length.symm)
  intro k hk hk'
  have hfile := List.getElem?_eq_getElem (h.length ▸ hk)
  have hids := (h.discovers k _ _ hfile (List.getElem?_eq_getElem hk)).2
  rw [(h'.discovers k _ _ hfile (List.getElem?_eq_getElem hk')).2] at hids
  exact (Ending.finished.inj hids).symm

/-- Once files are found and ids are discovered at slots, all depends on the cases of these ids. -/
theorem passesAt_iff {s : Session σ} {paths files : List Path} {slot : Nat → Nat}
    {found : List (List TestId)} (hf : s.findFiles paths = .ok files)
    (hfound : s.DiscoversAt slot files found) :
    s.PassesAt paths slot ↔
      ∃ groups, groupIds found.flatten = .ok groups ∧ s.GroupsPassAt slot files.length groups := by
  constructor
  · rintro ⟨files', found', groups, hfiles, hfound', hgroups, hpass⟩
    rw [hf, Except.ok.injEq] at hfiles
    subst hfiles
    rw [hfound'.unique hfound] at hgroups
    exact ⟨groups, hgroups, hpass⟩
  · rintro ⟨groups, hgroups, hpass⟩
    exact ⟨files, found, groups, hf, hfound, hgroups, hpass⟩

end Session

/-! ## Jobs at their slots -/

/-- The slots that the jobs of a session's pool are handed to in the course of moves. -/
def Session.slots [Wording] (s : Session σ) (moves : List Move) : Nat → Nat :=
  slotOf (ownProgram s.processors s.site) s.poolSize moves

theorem exists_of_mem_callNumbers {before n : Nat} {ts : List Task}
    (h : n ∈ Crew.callNumbers before ts) : ∃ k t, ts[k]? = some t ∧ n = before + k := by
  obtain ⟨k, hk, rfl⟩ := List.mem_map.1 h
  exact ⟨k, _, List.getElem?_eq_getElem (List.mem_range.1 hk), rfl⟩

/-- What is so of the numbers of a call is so of its tasks. -/
theorem forall₂_callNumbers_iff {α : Type} {before : Nat} {ts : List Task} {bs : List α}
    {R : Nat → α → Prop} : List.Forall₂ R (Crew.callNumbers before ts) bs ↔
      bs.length = ts.length ∧ ∀ k b, bs[k]? = some b → R (before + k) b := by
  have hlength : (Crew.callNumbers before ts).length = ts.length := by
    rw [Crew.callNumbers, List.length_map, List.length_range]
  rw [List.forall₂_iff_get]
  constructor
  · rintro ⟨hl, h⟩
    refine ⟨hl.symm.trans hlength, fun k b hb => ?_⟩
    obtain ⟨hk, rfl⟩ := List.getElem?_eq_some_iff.1 hb
    simpa [Crew.callNumbers] using h k (hl ▸ hk) hk
  · rintro ⟨hl, h⟩
    refine ⟨hlength.trans hl.symm, fun k _ hk => ?_⟩
    simpa [Crew.callNumbers] using h k _ (List.getElem?_eq_getElem hk)

section Slots

variable [Wording] {s : Session σ} {moves : List Move} {q : Pool} {α : Type}
  (hlive : .cancel ∉ moves)
  (hquiet : ∀ t ∈ submittedTasks moves, ∀ i, t.IsQuiet (s.site.forSlot i))
  (hr : (ofSize s.poolSize).run (ownProgram s.processors s.site) moves = some q)

include hlive hquiet hr

/-- **What became of a job** is what its task comes to at its slot. -/
theorem answerAt_slots {read : Json → Except String α} {k : Nat} {t : Task}
    (ht : (submittedTasks moves)[k]? = some t) {x : Except Error α}
    (hv : Crew.value? read q k = some x) :
    ∃ a, answerAt (ownProgram s.processors s.site) (s.slots moves k) t = some a ∧
      Crew.readAnswer read a = x := by
  obtain ⟨a, ha, rfl⟩ := Option.map_eq_some_iff.1 hv
  obtain ⟨t', ht', hat⟩ := answerAt_slotOf hlive
    (fun t ht i => isTidy_ownProgram s.processors (hquiet t ht i)) hr ha
  rw [ht, Option.some.injEq] at ht'
  subst ht'
  exact ⟨a, hat, rfl⟩

/-- The job of a file comes to ids exactly if its slot discovers them. -/
theorem value?_discovery_iff {k : Nat} {file : Path} {modulePath : List Path}
    (ht : (submittedTasks moves)[k]? = some (.discoverFile file modulePath))
    {x : Except Error (List TestId)}
    (hv : Crew.value? Crew.readIds q k = some x) {ids : List TestId} :
    x = .ok ids ↔ (Task.discoverFile file modulePath).IsWritable ∧
      (s.site.registry.discoverFile s.site.tree (.ofSlot (s.slots moves k)) modulePath
        file).ending = .finished ids := by
  obtain ⟨a, ha, rfl⟩ := answerAt_slots hlive hquiet hr ht hv
  exact readAnswer_discovery_iff (hquiet _ (List.mem_of_getElem? ht) _) ha

/-- The job of a group comes to a report without problems exactly if its cases pass at its slot. -/
theorem value?_run_iff {k : Nat} {ids : List TestId}
    (ht : (submittedTasks moves)[k]? = some (.runTestIds ids))
    {x : Except Error Report} (hv : Crew.value? Crew.readReport q k = some x) :
    (∃ r, x = .ok r ∧ r.successful = true) ↔
      ∀ id ∈ ids, s.site.registry.Passes (.ofSlot (s.slots moves k)) id := by
  obtain ⟨a, ha, rfl⟩ := answerAt_slots hlive hquiet hr ht hv
  rw [readAnswer_run_iff (hquiet _ (List.mem_of_getElem? ht) _) ha, Registry.succeeds_runIds_iff]

end Slots

/-! ## The verdict -/

namespace Session

variable {s : Session σ} {paths files : List Path} {moves : List Move} {q : Pool}

/-- The task of a file, among all that were submitted. -/
theorem getElem?_discoveryTasks {modulePath : List Path}
    (ht : discoveryTasks files modulePath <+: submittedTasks moves) {k : Nat} {file : Path}
    (hfile : files[k]? = some file) :
    (submittedTasks moves)[k]? = some (.discoverFile file modulePath) := by
  obtain ⟨more, hmore⟩ := ht
  rw [← hmore]
  apply getElem?_append_of_some
  rw [discoveryTasks, List.getElem?_map, hfile, Option.map_some]

/-- The task of a group, among all that were submitted. -/
theorem getElem?_runTasks {before : List Task} {groups : Groups}
    (ht : submittedTasks moves = before ++ runTasks groups) {k : Nat} {g : String × List TestId}
    (hg : groups[k]? = some g) :
    (submittedTasks moves)[before.length + k]? = some (.runTestIds g.2) := by
  rw [ht, List.getElem?_append_right (Nat.le_add_right ..), Nat.add_sub_cancel_left, runTasks,
    List.getElem?_map, hg, Option.map_some]

section Answered

variable [Wording] (hlive : .cancel ∉ moves)
  (hquiet : ∀ t ∈ submittedTasks moves, ∀ i, t.IsQuiet (s.site.forSlot i))
  (hr : (ofSize s.poolSize).run (ownProgram s.processors s.site) moves = some q)

include hlive hquiet hr

/-- **A discovery that comes to ids** has them discovered at slots. -/
theorem discoversAt_of_values
    (ht : discoveryTasks files s.settings.modulePath <+: submittedTasks moves)
    {found : List (List TestId)}
    (hv : List.Forall₂ (fun k ids => Crew.value? Crew.readIds q k = some (.ok ids))
      (Crew.callNumbers 0 (discoveryTasks files s.settings.modulePath)) found) :
    s.DiscoversAt (s.slots moves) files found := by
  obtain ⟨hlength, hv⟩ := forall₂_callNumbers_iff.1 hv
  refine ⟨by rw [hlength, discoveryTasks, List.length_map], fun k file ids hfile hids => ?_⟩
  have hvalue := hv k ids hids
  rw [Nat.zero_add] at hvalue
  exact (value?_discovery_iff hlive hquiet hr (getElem?_discoveryTasks ht hfile) hvalue).1 rfl

/-- **A discovery that comes to an error** has no ids discovered at slots. -/
theorem not_discoversAt_of_error
    (ht : discoveryTasks files s.settings.modulePath <+: submittedTasks moves) {e : Error}
    (ho : Crew.outcome? Crew.readIds q
      (Crew.callNumbers 0 (discoveryTasks files s.settings.modulePath)) = some (.error e))
    (found : List (List TestId)) : ¬ s.DiscoversAt (s.slots moves) files found := by
  intro hfound
  obtain ⟨n, hn, hv⟩ := value?_of_outcome?_error ho
  obtain ⟨k, t, hk, rfl⟩ := exists_of_mem_callNumbers hn
  rw [Nat.zero_add] at hv
  rw [discoveryTasks, List.getElem?_map, Option.map_eq_some_iff] at hk
  obtain ⟨file, hfile, rfl⟩ := hk
  -- The file with the error would have been discovered at its slot.
  have hlt : k < found.length := hfound.length ▸ (List.getElem?_eq_some_iff.1 hfile).1
  have hids := hfound.discovers k file _ hfile (List.getElem?_eq_getElem hlt)
  cases (value?_discovery_iff hlive hquiet hr (getElem?_discoveryTasks ht hfile) hv).2 hids

/-- **A run of groups that comes to an error** has a case that does not pass. -/
theorem not_passes_of_error {groups : Groups} {before : List Task}
    (ht : submittedTasks moves = before ++ runTasks groups) {e : Error}
    (ho : Crew.outcome? Crew.readReport q (Crew.callNumbers before.length (runTasks groups)) =
      some (.error e)) :
    ¬ s.GroupsPassAt (s.slots moves) before.length groups := by
  intro hpass
  obtain ⟨n, hn, hv⟩ := value?_of_outcome?_error ho
  obtain ⟨k, t, hk, rfl⟩ := exists_of_mem_callNumbers hn
  rw [runTasks, List.getElem?_map, Option.map_eq_some_iff] at hk
  obtain ⟨g, hg, rfl⟩ := hk
  have hjob := value?_run_iff hlive hquiet hr (getElem?_runTasks ht hg) hv
  obtain ⟨r, hr, -⟩ := hjob.2 (hpass k g hg)
  cases hr

/-- **The reports of groups have no problems** exactly if all cases pass at the slots of their
groups. -/
theorem successful_iff_of_values {groups : Groups} {before : List Task}
    (ht : submittedTasks moves = before ++ runTasks groups)
    {reports : List Report}
    (hv : List.Forall₂ (fun k r => Crew.value? Crew.readReport q k = some (.ok r))
      (Crew.callNumbers before.length (runTasks groups)) reports) :
    (∀ r ∈ reports, r.successful = true) ↔
      s.GroupsPassAt (s.slots moves) before.length groups := by
  obtain ⟨hlength, hv⟩ := forall₂_callNumbers_iff.1 hv
  rw [runTasks, List.length_map] at hlength
  -- Each group has its report.
  have hjob : ∀ (k : Nat) (r : Report) (g : String × List TestId), reports[k]? = some r →
      groups[k]? = some g → (r.successful = true ↔ ∀ id ∈ g.2,
        s.site.registry.Passes (.ofSlot (s.slots moves (before.length + k))) id) := by
    intro k r g hk hg
    rw [← value?_run_iff hlive hquiet hr (getElem?_runTasks ht hg) (hv k r hk)]
    simp only [Except.ok.injEq, exists_eq_left']
  constructor
  · intro h k g hg
    have hlt : k < reports.length := hlength ▸ (List.getElem?_eq_some_iff.1 hg).1
    have hreport := List.getElem?_eq_getElem hlt
    exact (hjob k _ g hreport hg).1 (h _ (List.mem_of_getElem? hreport))
  · intro h r hmem
    obtain ⟨k, hk⟩ := List.mem_iff_getElem?.1 hmem
    have hlt : k < groups.length := hlength ▸ (List.getElem?_eq_some_iff.1 hk).1
    have hg := List.getElem?_eq_getElem hlt
    exact (hjob k r _ hk hg).2 (h k _ hg)

/-- **A run of groups comes to a report without problems** exactly if all cases pass at the slots of
their groups. -/
theorem successful_iff_passes {groups : Groups} {before : List Task}
    (ht : submittedTasks moves = before ++ runTasks groups)
    {o : Except Error (List Report)}
    (ho : Crew.outcome? Crew.readReport q (Crew.callNumbers before.length (runTasks groups)) =
      some o) :
    (∃ r, o.map Report.mergeAll = .ok r ∧ r.successful = true) ↔
      s.GroupsPassAt (s.slots moves) before.length groups := by
  cases o with
  | error e =>
    simp only [Except.map, reduceCtorEq, false_and, exists_false, false_iff]
    exact not_passes_of_error hlive hquiet hr ht ho
  | ok reports =>
    simp only [Except.map, Except.ok.injEq, exists_eq_left', Report.successful_mergeAll]
    exact successful_iff_of_values hlive hquiet hr ht (value?_of_outcome? ho)

end Answered

/-- The ids of a discovery are discovered at slots, and stay so whatever follows. -/
theorem exists_discoversAt [Wording] {before after : List Move} {p : Pool} {ids : List TestId}
    (hlive : .cancel ∉ before ++ after)
    (hquiet : ∀ t ∈ submittedTasks (before ++ after), ∀ i, t.IsQuiet (s.site.forSlot i))
    (hr : (ofSize s.poolSize).run (ownProgram s.processors s.site) before = some p)
    (hr' : p.run (ownProgram s.processors s.site) after = some q)
    (ht : discoveryTasks files s.settings.modulePath <+: submittedTasks (before ++ after))
    (ho : forkedDiscovery? (Crew.callNumbers 0 (discoveryTasks files s.settings.modulePath)) p =
      some (.ok ids)) :
    ∃ found, ids = found.flatten ∧ s.DiscoversAt (s.slots (before ++ after)) files found := by
  obtain ⟨o, hcall, he⟩ := Option.map_eq_some_iff.1 ho
  cases o with
  | error e => cases he
  | ok found =>
    cases he
    -- The answers of the discovery are kept.
    have hvalues := (value?_of_outcome? hcall).imp fun k ids hv => by
      obtain ⟨a, ha, hread⟩ := Option.map_eq_some_iff.1 hv
      exact Option.map_eq_some_iff.2 ⟨a, answer?_run hr' ha, hread⟩
    exact ⟨found, rfl,
      discoversAt_of_values hlive hquiet (run_append.2 ⟨p, hr, hr'⟩) ht hvalues⟩

/-- **The verdict of a forked run is right**, whatever the order of its moves: it comes to a report
without problems exactly if all cases pass at the slots that they were handed to. -/
theorem ForkedRun.successful_iff [Wording] {o : Except Error Report} (h : s.ForkedRun paths moves o)
    (hlive : .cancel ∉ moves)
    (hquiet : ∀ t ∈ submittedTasks moves, ∀ i, t.IsQuiet (s.site.forSlot i)) :
    (∃ r, o = .ok r ∧ r.successful = true) ↔ s.PassesAt paths (s.slots moves) := by
  cases h with
  | unfound hf =>
    simp only [reduceCtorEq, false_and, exists_false, false_iff]
    rintro ⟨files, found, groups, hfiles, -⟩
    rw [hf] at hfiles
    cases hfiles
  | undiscovered hf ht hr ho =>
    simp only [reduceCtorEq, false_and, exists_false, false_iff]
    rintro ⟨files, found, groups, hfiles, hfound, -⟩
    rw [hf, Except.ok.injEq] at hfiles
    subst hfiles
    obtain ⟨o, ho, he⟩ := Option.map_eq_some_iff.1 ho
    cases o with
    | ok found => cases he
    | error e => exact not_discoversAt_of_error hlive hquiet hr (ht ▸ List.prefix_rfl) ho _ hfound
  | @ran files before after p _ ids o hf ht hr ho ht' hr' ho' =>
    have hsub : submittedTasks (before ++ after) =
        discoveryTasks files s.settings.modulePath ++ runTasksOf ids := by
      rw [← ht, ← ht']
      exact List.filterMap_append
    obtain ⟨found, rfl, hfound⟩ :=
      exists_discoversAt hlive hquiet hr hr' (hsub ▸ List.prefix_append ..) ho
    rw [passesAt_iff hf hfound]
    have hlength : (discoveryTasks files s.settings.modulePath).length = files.length := by
      rw [discoveryTasks, List.length_map]
    cases hg : groupIds found.flatten with
    | error e =>
      rw [forkedRun?, hg] at ho'
      cases ho'
      simp
    | ok groups =>
      have htasks : runTasksOf found.flatten = runTasks groups := by rw [runTasksOf, hg]
      rw [htasks] at hsub ho'
      rw [forkedRun?, hg] at ho'
      obtain ⟨reports, hcall, rfl⟩ := Option.map_eq_some_iff.1 ho'
      rw [← hlength] at hcall
      rw [successful_iff_passes hlive hquiet (run_append.2 ⟨p, hr, hr'⟩) hsub hcall, hlength]
      simp only [Except.ok.injEq, exists_eq_left']

end Session

end SuitePool
