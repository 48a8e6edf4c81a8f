import Mathlib.Data.List.Basic
import Mathlib.Data.List.Forall2
import Mathlib.Tactic.Common
import SuitePool.Proofs.Forked.Conveyed

/-!
# Forked discovery agrees with sequential discovery

A forked discovery gives each suite file to the pool as a task of its own and puts the ids that come
back behind one another.  If getters resolve in all workers as they do here, end no process, never
panic and print no marker, then it comes to what a discovery in one process comes to: the same ids
in the same order, or an error where that one fails.  Discovery in one process stops at the first
failing file; in the pool all files are tried, and of several failing ones any may be the one whose
error is told.  With a single slot it is the first.

## Main definitions

* `forkedDiscovery?`: what a forked discovery has come to.
* `DiscoveryAgrees`: what a forked discovery may come to.

## Main results

* `discoveryAgrees_of_forkedDiscovery?`: what it comes to agrees with the sequential discovery.
* `forkedDiscovery_refines`: forked discoveries refine sequential ones, and do come to something.
-/

namespace SuitePool

open Pool Text

variable {σ : Type} {site : Site σ} {processors : Nat}

/-- The tasks of a forked discovery: one for each file. -/
def discoveryTasks (files modulePath : List Path) : List Task :=
  files.map fun file => .discoverFile file modulePath

/-- **What a forked discovery has come to** on a pool, where its tasks have these numbers: the ids
of all files, or the error of one of them.  A session comes to this, too: see
`Session.discoveryAgrees_discoverIds`. -/
def forkedDiscovery? [Wording] (numbers : List Nat) (p : Pool) :
    Option (Except Error (List TestId)) :=
  (Crew.outcome? Crew.readIds p numbers).map fun ids => ids.map List.flatten

/-- **What a forked discovery may come to**, given a discovery of the files in one process: the same
ids, or kind and message of the error of a file that fails alone, which is the error of the
discovery in one process if files are discovered in turn. -/
def DiscoveryAgrees (r : Registry σ) (t : FileTree) (host : Host) (modulePath files : List Path)
    (inTurn : Prop) (o : Except Error (List TestId)) : Prop :=
  match (r.discoverFiles t host modulePath files).ending with
  | .finished ids => o = .ok ids
  | .failed e => ∃ file e', file ∈ files ∧
      (r.discoverFile t host modulePath file).ending = .failed e' ∧
      o = .error (.remote e'.kind e'.message) ∧ (inTurn → e' = e)
  | _ => False

theorem DiscoveryAgrees.mono {r : Registry σ} {t : FileTree} {host : Host}
    {modulePath files : List Path} {inTurn inTurn' : Prop} {o : Except Error (List TestId)}
    (h : DiscoveryAgrees r t host modulePath files inTurn o) (ht : inTurn' → inTurn) :
    DiscoveryAgrees r t host modulePath files inTurn' o := by
  unfold DiscoveryAgrees at h ⊢
  cases he : (r.discoverFiles t host modulePath files).ending with
  | finished ids => simpa only [he] using h
  | failed e =>
    simp only [he] at h ⊢
    obtain ⟨file, e', hmem, hf, ho, hfirst⟩ := h
    exact ⟨file, e', hmem, hf, ho, fun hturn => hfirst (ht hturn)⟩
  | panicked m => simp only [he] at h
  | exited c => simp only [he] at h

/-! ## Sequential discovery -/

namespace Registry

variable {r : Registry σ} {t : FileTree} {host : Host} {modulePath files : List Path}

theorem isOrderly_discoverFiles (hr : r.HasTameGetters) (t : FileTree) (host : Host)
    (modulePath files : List Path) : (r.discoverFiles t host modulePath files).ending.IsOrderly :=
  Exec.isCleanable_isOrderly.bind (Exec.isCleanable_isOrderly.mapM files fun file _ =>
    isOrderly_discoverFile (hr.hasTameGettersIn host) t modulePath file) fun _ _ =>
      Exec.isCleanable_isOrderly.pure _

/-- **A discovery that finishes puts the ids of its files behind one another.** -/
theorem discoverFiles_finished {ids : List TestId}
    (h : (r.discoverFiles t host modulePath files).ending = .finished ids) :
    ∃ found, List.Forall₂ (fun file ids =>
      (r.discoverFile t host modulePath file).ending = .finished ids) files found ∧
        ids = found.flatten := by
  obtain ⟨found, hf, h⟩ := Exec.finished_of_bind h
  cases h
  exact ⟨found, Exec.finished_of_mapM hf, rfl⟩

/-- **A discovery that fails fails with its first failing file.** -/
theorem discoverFiles_failed {e : Error}
    (h : (r.discoverFiles t host modulePath files).ending = .failed e) :
    ∃ before file after, files = before ++ file :: after ∧
      (∀ b ∈ before, ∃ ids, (r.discoverFile t host modulePath b).ending = .finished ids) ∧
      (r.discoverFile t host modulePath file).ending = .failed e := by
  rcases Exec.failed_of_bind h with h | ⟨found, -, h⟩
  · exact Exec.failed_of_mapM h
  · cases h

end Registry

/-! ## Forked discovery -/

variable {host : Host} {modulePath files : List Path}

/-- If all files come to ids, so does the discovery, and to the same. -/
theorem discoveryAgrees_ok (htame : site.registry.HasTameGetters) {found : List (List TestId)}
    {inTurn : Prop} (hf : List.Forall₂ (fun file ids => Conveys Eq
      (site.registry.discoverFile site.tree host modulePath file).ending (.ok ids)) files found) :
    DiscoveryAgrees site.registry site.tree host modulePath files inTurn (.ok found.flatten) := by
  have horderly := Registry.isOrderly_discoverFiles htame site.tree host modulePath files
  unfold DiscoveryAgrees
  cases he : (site.registry.discoverFiles site.tree host modulePath files).ending with
  | finished ids =>
    obtain ⟨alone, ha, rfl⟩ := Registry.discoverFiles_finished he
    -- File by file the ids are the same.
    have hsame : found = alone := by
      clear he horderly
      induction hf generalizing alone with
      | nil =>
        cases ha
        rfl
      | cons h _ ih =>
        obtain ⟨q, hq, rfl⟩ := h.finished_of_ok
        cases ha with
        | cons hq' hrest =>
          rw [hq, Ending.finished.injEq] at hq'
          rw [hq', ih _ hrest]
    rw [hsame]
  | failed e =>
    -- Then a file would have failed alone.
    obtain ⟨before, file, after, rfl, -, hfail⟩ := Registry.discoverFiles_failed he
    obtain ⟨ids, hids⟩ := exists_of_mem_forall₂ hf file (by simp)
    obtain ⟨q, hq, -⟩ := hids.finished_of_ok
    rw [hfail] at hq
    cases hq
  | panicked m => rw [he] at horderly; cases horderly
  | exited c => rw [he] at horderly; cases horderly

/-- If a file fails alone, so does the discovery. -/
theorem discoveryAgrees_error (htame : site.registry.HasTameGetters) {before after : List Path}
    {file : Path} {f : Error}
    (hf : (site.registry.discoverFile site.tree host modulePath file).ending = .failed f)
    {inTurn : Prop} (hb : inTurn → ∀ b ∈ before, ∃ ids,
      (site.registry.discoverFile site.tree host modulePath b).ending = .finished ids) :
    DiscoveryAgrees site.registry site.tree host modulePath (before ++ file :: after) inTurn
      (.error (.remote f.kind f.message)) := by
  have horderly := Registry.isOrderly_discoverFiles htame site.tree host modulePath
    (before ++ file :: after)
  unfold DiscoveryAgrees
  cases he : (site.registry.discoverFiles site.tree host modulePath
      (before ++ file :: after)).ending with
  | finished ids =>
    -- Then the file would have finished alone.
    obtain ⟨alone, ha, -⟩ := Registry.discoverFiles_finished he
    obtain ⟨q, hq⟩ := exists_of_mem_forall₂ ha file (by simp)
    rw [hf] at hq
    cases hq
  | failed e =>
    refine ⟨file, f, by simp, hf, rfl, ?_⟩
    intro hturn
    have hfirst := Exec.ending_mapM_of_first_failed after (hb hturn) hf
    have hall : (site.registry.discoverFiles site.tree host modulePath
        (before ++ file :: after)).ending = .failed f := Exec.ending_bind_of_failed hfirst _
    rw [he, Ending.failed.injEq] at hall
    exact hall.symm
  | panicked m => rw [he] at horderly; cases horderly
  | exited c => rw [he] at horderly; cases horderly

/-- **What a forked discovery comes to agrees with the discovery in one process.** -/
theorem discoveryAgrees_of_forkedDiscovery? [Wording] (hres : site.registry.ResolvesAlike)
    (htame : site.registry.HasTameGetters) {submitted : List Task}
    (hquiet : ∀ t ∈ submitted, ∀ i, t.IsQuiet (site.forSlot i))
    (hfiles : ∀ file ∈ files, (text? file.bytes).isSome)
    (hroots : ∀ root ∈ modulePath, (text? root.bytes).isSome) {p : Pool}
    (hsound : IsSound (ownProgram processors site) submitted p) {numbers : List Nat}
    (hcall : IsCall submitted (discoveryTasks files modulePath) numbers) (host : Host)
    {o : Except Error (List TestId)} (ho : forkedDiscovery? numbers p = some o) :
    DiscoveryAgrees site.registry site.tree host modulePath files (p.slots.length = 1) o := by
  obtain ⟨o', ho', rfl⟩ := Option.map_eq_some_iff.1 ho
  -- What the tasks of the files yield, the caller learns.
  have hlearn : ∀ file ∈ files, ∀ x : Except Error (List TestId),
      Yields (ownProgram processors site) Crew.readIds
        (.discoverFile file modulePath) x →
      Conveys Eq (site.registry.discoverFile site.tree host modulePath file).ending x := by
    intro file hmem x hy
    have hgiven := hcall.mem_submitted (List.mem_map.2 ⟨file, hmem, rfl⟩)
    have hw : (Task.discoverFile file modulePath).IsWritable := by
      rw [Task.IsWritable, Task.paths, List.forall_mem_cons]
      exact ⟨hfiles file hmem, hroots⟩
    exact conveys_discovery hres htame host hw (hquiet _ hgiven) hy
  cases o' with
  | ok found => exact discoveryAgrees_ok htame (conveys_of_outcome? hsound hcall hlearn ho')
  | error e =>
    obtain ⟨before, file, after, f, rfl, hf, rfl, hb⟩ :=
      failed_of_outcome? hsound hcall hlearn ho'
    exact discoveryAgrees_error htame hf hb

/-! ## A suite in a file -/

/-- A directory with one file. -/
def soloTree : FileTree := ⟨[(utf8 "pkg", .directory [(utf8 "m.rs", .file [])])], []⟩

/-- Its path. -/
def soloDirectory : Path := .ofString "/pkg"

/-- The path of the file. -/
def soloFile : Path := .ofString "/pkg/m.rs"

theorem resolveAny_soloDirectory : soloTree.resolveAny true soloDirectory =
    .ok [(utf8 "pkg", .directory [(utf8 "m.rs", .file [])])] := by
  have hb : 0 ∉ soloDirectory.bytes ∧ soloDirectory.bytes ≠ [] ∧ soloDirectory.isAbsolute := by
    decide
  have hs : soloDirectory.steps = [.stay, .enter (utf8 "pkg")] := by decide
  have hl : ¬ greatestNameLength < (utf8 "pkg").length := by decide
  simp [FileTree.resolveAny, hb, hs, resolveSteps, Trail.node, lookupEntry, soloTree, hl]

theorem resolveAny_soloFile : soloTree.resolveAny true soloFile =
    .ok [(utf8 "m.rs", .file []), (utf8 "pkg", .directory [(utf8 "m.rs", .file [])])] := by
  have hb : 0 ∉ soloFile.bytes ∧ soloFile.bytes ≠ [] ∧ soloFile.isAbsolute := by decide
  have hs : soloFile.steps = [.stay, .enter (utf8 "pkg"), .enter (utf8 "m.rs")] := by
    decide
  have hl : ¬ greatestNameLength < (utf8 "pkg").length ∧
      ¬ greatestNameLength < (utf8 "m.rs").length := by
    decide
  simp [FileTree.resolveAny, hb, hs, resolveSteps, Trail.node, lookupEntry, soloTree, hl]

theorem isFile_soloFile : soloTree.isFile soloFile := by
  have hz : 0 ∉ soloFile.bytes := by decide
  have hl : ¬ greatestPathLength < soloFile.bytes.length := by decide
  rw [FileTree.isFile, FileTree.node?, FileTree.resolve, if_neg hz, if_neg hl, resolveAny_soloFile]
  rfl

theorem realPath?_soloFile : soloTree.realPath? soloFile = some soloFile := by
  rw [FileTree.realPath?, resolveAny_soloFile]
  decide

theorem realPath?_soloDirectory : soloTree.realPath? soloDirectory = some soloDirectory := by
  rw [FileTree.realPath?, resolveAny_soloDirectory]
  decide

/-- The file names the module of the suite. -/
theorem moduleOfFile_soloFile :
    Registry.moduleOfFile soloTree [soloDirectory] soloFile = .ok "m" := by
  have he : ¬ soloFile.extension? ≠ some (utf8 Error.suiteExtension) := by decide
  have hr : rootComponents soloTree soloDirectory = soloDirectory.components := by
    rw [rootComponents, realPath?_soloDirectory]
    rfl
  have hm : moduleName soloTree soloFile [soloDirectory] = .ok "m" := by
    simp only [moduleName, List.filterMap_cons, List.filterMap_nil, hr]
    decide +kernel
  simp only [Registry.moduleOfFile, isFile_soloFile, realPath?_soloFile, Bool.not_true,
    Bool.false_eq_true, he, if_false, hm]

/-- The id of the suite is discovered in the file, whatever its body does. -/
theorem ending_discoverFile_soloFile (printed : Bytes) (ending : Ending Failure Unit)
    (host : Host) :
    ((soloSite printed ending).registry.discoverFile soloTree host [soloDirectory]
      soloFile).ending = .finished [soloId] := by
  rw [Registry.discoverFile, moduleOfFile_soloFile]
  rfl

/-- Where a suite has this file. -/
def filedSite : Site Unit := { soloSite [] (.finished ()) with tree := soloTree }

/-! ## Refinement -/

/-- **Forked discovery agrees with sequential discovery.**  A pool that is not shut down was given
quiet tasks, in whatever order its slots took and finished jobs, and the tasks of a forked discovery
of files with readable paths are among them.  Then what the discovery has come to agrees with a
discovery of the files in any one process; while it has come to nothing some slot can take or finish
a job; and there are never more moves than three for each task, so that it does come to
something. -/
theorem forkedDiscovery_refines [Wording] (processors : Nat) (hres : site.registry.ResolvesAlike)
    (htame : site.registry.HasTameGetters) {size : Nat} {moves : List Move}
    (hlive : .cancel ∉ moves)
    (hquiet : ∀ t ∈ submittedTasks moves, ∀ i, t.IsQuiet (site.forSlot i)) {p : Pool}
    (hrun : (ofSize size).run (ownProgram processors site) moves = some p)
    (hfiles : ∀ file ∈ files, (text? file.bytes).isSome)
    (hroots : ∀ root ∈ modulePath, (text? root.bytes).isSome) {numbers : List Nat}
    (hcall : IsCall (submittedTasks moves) (discoveryTasks files modulePath) numbers)
    (host : Host) :
    (∀ o, forkedDiscovery? numbers p = some o →
      DiscoveryAgrees site.registry site.tree host modulePath files (size ≤ 1) o) ∧
    (forkedDiscovery? numbers p = none →
      ∃ i, (p.take (ownProgram processors site) i).isSome ∨
        (p.finish (ownProgram processors site) i).isSome) ∧
    moves.length ≤ 3 * (submittedTasks moves).length := by
  have htidy : ∀ t ∈ submittedTasks moves, ∀ i, IsTidy (ownProgram processors site) i t :=
    fun t ht i => isTidy_ownProgram processors (hquiet t ht i)
  have hsound := isSound_run hlive htidy hrun
  refine ⟨?_, ?_, length_moves_ofSize_le hlive hrun⟩
  · intro o ho
    have hagrees := discoveryAgrees_of_forkedDiscovery? hres htame hquiet hfiles hroots hsound
      hcall host ho
    apply hagrees.mono
    intro hsize
    rw [length_slots_run hrun, length_slots_ofSize]
    omega
  · intro ho
    exact exists_move_of_outcome? hsound htidy hcall (Option.map_eq_none_iff.1 ho)

open scoped Terse in
/-- The id of a suite in a file is discovered by a worker, too. -/
theorem forkedDiscovery_refines_file :
    ∃ p, (ofSize 1).run (ownProgram 4 filedSite)
        [.submit (.discoverFile soloFile [soloDirectory]), .take 0, .finish 0] = some p ∧
      forkedDiscovery? [0] p = some (.ok [soloId]) ∧
      DiscoveryAgrees filedSite.registry filedSite.tree ⟨none⟩ [soloDirectory] [soloFile] (1 ≤ 1)
        (.ok [soloId]) := by
  have hsite : filedSite.registry.IgnoresHost := ignoresHost_soloSite
  have htame : filedSite.registry.IsTame := isTame_soloSite rfl
  have havoids : filedSite.registry.AvoidsSeparator := avoidsSeparator_soloSite List.not_mem_nil
  have hq := Task.isQuiet_forSlot havoids
  have hw : (text? soloFile.bytes).isSome ∧ (text? soloDirectory.bytes).isSome := by decide +kernel
  have hwritable : (Task.discoverFile soloFile [soloDirectory]).IsWritable := by
    simpa [Task.IsWritable, Task.paths] using hw
  have hreply : (Task.discoverFile soloFile [soloDirectory]).reply? (filedSite.forSlot 0) =
      some (.done (.array [soloId.toJson])) := by
    rw [Task.reply?_discoverFile]
    have hslot : ((filedSite.forSlot 0).registry.discoverFile (filedSite.forSlot 0).tree
        (filedSite.forSlot 0).host [soloDirectory] soloFile).ending = .finished [soloId] :=
      ending_discoverFile_soloFile ..
    rw [hslot]
    rfl
  obtain ⟨p, hp, hp0⟩ := exists_answer?_alone 4 (hq _ 0) hwritable
  have hforked : forkedDiscovery? [0] p = some (.ok [soloId]) := by
    have hval : Crew.value? Crew.readIds p 0 = some (.ok [soloId]) := by
      rw [Crew.value?, hp0, Option.map_some, hreply]
      simp only [Reply.result, Crew.readAnswer]
      rfl
    simp only [forkedDiscovery?, Crew.outcome?, List.map_cons, List.map_nil, hval]
    rfl
  have hcall : IsCall [.discoverFile soloFile [soloDirectory]]
      (discoveryTasks [soloFile] [soloDirectory]) [0] :=
    ⟨List.pairwise_singleton .., .cons rfl .nil⟩
  exact ⟨p, hp, hforked, (forkedDiscovery_refines 4 hsite.resolvesAlike htame.hasTameGetters
    (by decide) (fun t _ => hq t) hp (List.forall_mem_singleton.2 hw.1)
    (List.forall_mem_singleton.2 hw.2) hcall ⟨none⟩).1 _ hforked⟩

end SuitePool
