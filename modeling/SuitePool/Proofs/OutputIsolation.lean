import Mathlib.Data.List.Basic
import Mathlib.Tactic.Common
import SuitePool.Proofs.Pool.Isolation

/-!
# What printed bytes do to replies

The pool calls a worker process with one task after another, and suite code prints into the stream
of the replies.  As long as no marker is printed during a task, each call returns the reply that the
worker computed for its task.  Once a marker is printed it is taken for the frame of a reply: the
call returns what is behind it, or fails, and the reply of the task stays unread and answers a later
call.  So replies are isolated from printed bytes exactly if all tasks are quiet.

## Main definitions

* `Process.call`, `Process.calls`: calling a process.

## Main results

* `Pool.finish_take_of_call`: a slot that takes and finishes a job calls its process.
* `calls_of_isQuiet`: quiet tasks are answered with their replies.
* `calls_eq_replies_exactly`: no others are, in general.
* `forged_report_is_read`: a report that a body forges is believed.
-/

namespace SuitePool

open Pool Text

variable {σ : Type}

/-! ## Calls -/

namespace Process

/-- **Calls a process** with a task: the reply that is read, and the process after it; nothing if no
reply is read. -/
def call (program : WorkerProgram) (i : Nat) (p : Process) (t : Task) : Option (Reply × Process) :=
  match dispatch program i (some p) t with
  | .error _ => none
  | .ok sent =>
    match sent.reading with
    | .reply r unread => some (r, ⟨unread, sent.alive, none⟩)
    | _ => none

/-- **Calls a process with one task after another**: the replies that are read, if all are. -/
def calls (program : WorkerProgram) (i : Nat) (p : Process) : List Task → Option (List Reply)
  | [] => some []
  | t :: ts => do
    let (r, q) ← p.call program i t
    let rs ← q.calls program i ts
    some (r :: rs)

end Process

/-- **A slot that takes and finishes a job calls its process** with the job's task. -/
theorem Pool.finish_take_of_call {program : WorkerProgram} {p : Pool} (hc : p.cancelled = false)
    {i : Nat} {process process' : Process} {job : Job} {rest : List Job} {r : Reply}
    (hs : p.slots[i]? = some (.waiting (some process))) (hq : p.queue = job :: rest)
    (hcall : process.call program i job.task = some (r, process')) :
    ∃ q, (p.take program i).bind (·.finish program i) = some q ∧
      q.slots = p.slots.set i (.waiting (some process')) ∧
      q.answers = p.answers ++ [(job.number, r.result)] := by
  have hi : i < p.slots.length := (List.getElem?_eq_some_iff.1 hs).1
  unfold Process.call at hcall
  cases hd : dispatch program i (some process) job.task with
  | error e => rw [hd] at hcall; cases hcall
  | ok sent =>
    simp only [hd] at hcall
    have htake : p.take program i = some { p with
        queue := rest, slots := p.slots.set i (.busy job sent) } := by
      unfold take
      rw [hc, if_neg Bool.false_ne_true, hs, hq]
      simp only [hd]
      rfl
    cases hr : sent.reading with
    | waiting => rw [hr] at hcall; cases hcall
    | closed => rw [hr] at hcall; cases hcall
    | malformed => rw [hr] at hcall; cases hcall
    | reply r' unread =>
      rw [hr] at hcall
      cases hcall
      -- What the slot makes of the reply is its result, and what is behind it stays unread.
      have hslot : (p.slots.set i (.busy job sent))[i]? = some (.busy job sent) := by simp [hi]
      have hset : settle program i sent = some (r.result, some ⟨unread, sent.alive, none⟩) := by
        simp only [settle, hr]
      rw [htake, Option.bind_some]
      obtain ⟨q, hfin⟩ := Option.isSome_iff_exists.1
        (exists_finish (p := { p with queue := rest, slots := p.slots.set i (.busy job sent) })
          hc hslot (by rw [hset]; rfl))
      obtain ⟨-, job', process, a, kept, notices, hw, hset', rfl⟩ := finish_eq_some hfin
      rw [hslot, Option.some.injEq, Slot.busy.injEq] at hw
      obtain ⟨rfl, rfl⟩ := hw
      rw [hset, Option.some.injEq, Prod.mk.injEq] at hset'
      obtain ⟨rfl, rfl⟩ := hset'
      exact ⟨_, hfin, List.set_set .., rfl⟩

/-! ## Calling a worker -/

section Worker

variable (processors : Nat) (site : Site σ) (slot : Nat)

/-- **What a call of a worker process reads**: what was left unread, what is printed during the
task, and the frame of the task's reply. -/
theorem call_ownProgram [Wording] {t : Task} (hw : t.IsWritable) (unread : Bytes) :
    (⟨unread, true, none⟩ : Process).call (ownProgram processors site) slot t =
      match (readReply (t.reply? (site.forSlot slot)).isSome (unread ++
          (t.printed (site.forSlot slot) ++
            ((t.reply? (site.forSlot slot)).map Reply.line).getD []))).2 with
      | .reply r rest => some (r, ⟨rest, (t.reply? (site.forSlot slot)).isSome, none⟩)
      | _ => none := by
  obtain ⟨line, hl⟩ : ∃ line, t.line? = some line := ⟨_, Task.line?_of_isWritable hw⟩
  have hd : dispatch (ownProgram processors site) slot (some ⟨unread, true, none⟩) t =
      .ok ((⟨unread, true, none⟩ : Process).send (workerResponse processors site slot) line) := by
    simp only [dispatch, processFor, hl]
    rfl
  simp only [Process.call, hd, Process.send, if_true, Process.reading,
    workerResponse_printed processors site slot hw hl,
    workerResponse_survives processors site slot hw hl]

/-- **A quiet task is answered with its reply**, and leaves its process as good as new. -/
theorem call_of_isQuiet [Wording] {t : Task} (hw : t.IsWritable)
    (hq : t.IsQuiet (site.forSlot slot)) {r : Reply} (hr : t.reply? (site.forSlot slot) = some r) :
    Process.fresh.call (ownProgram processors site) slot t = some (r, .fresh) := by
  have h := readReply_answer hq (Task.isStored_of_reply? hr) true []
  have hcall := call_ownProgram processors site slot hw []
  rw [hr] at hcall
  simp only [List.nil_append, Option.map_some, Option.getD_some, Option.isSome_some, Reply.line,
    h] at hcall
  exact hcall

/-- **Quiet tasks are answered with their replies**, one after another. -/
theorem calls_of_isQuiet [Wording] {tasks : List Task}
    (hq : ∀ t ∈ tasks, t.IsQuiet (site.forSlot slot))
    (hw : ∀ t ∈ tasks, t.IsWritable ∧ (t.reply? (site.forSlot slot)).isSome) :
    Process.fresh.calls (ownProgram processors site) slot tasks =
      tasks.mapM (Task.reply? (site.forSlot slot)) := by
  induction tasks with
  | nil => rfl
  | cons t tasks ih =>
    rw [List.forall_mem_cons] at hq hw
    obtain ⟨r, hr⟩ := Option.isSome_iff_exists.1 hw.1.2
    -- The process is as good as new for the other tasks.
    rw [Process.calls, call_of_isQuiet processors site slot hw.1.1 hq.1 hr, List.mapM_cons, hr,
      ← ih hq.2 hw.2]
    rfl

/-- The reply to no ids is no error, and the reply to an id without a dot is one; nothing is printed
during either task. -/
theorem reply?_nil_ne_reply?_dotless (site : Site σ) :
    ∃ r s, (Task.runTestIds []).reply? site = some r ∧
      (Task.runTestIds [⟨""⟩]).reply? site = some s ∧ r ≠ s ∧
      (Task.runTestIds []).IsQuiet site ∧ (Task.runTestIds [⟨""⟩]).IsQuiet site := by
  have hg : groupIds [⟨""⟩] = .error (.invalidTestId "") := by decide +kernel
  refine ⟨.done Report.empty.stored, .failed .invalidInput (Error.invalidTestId "").message,
    ?_, ?_, by simp, unmarked_of_separator_not_mem ?_, unmarked_of_separator_not_mem ?_⟩
  · rw [Task.reply?_runTestIds]
    rfl
  · rw [Task.reply?_runTestIds, Registry.runIds, hg]
    rfl
  · exact List.not_mem_nil
  · rw [Task.printed, Task.run, Task.execute, Registry.runIds, hg]
    exact List.not_mem_nil

/-- **A process with a frame to be read answers any task with it**, or none. -/
theorem call_of_leftover [Wording] {unread : Bytes}
    (h : (∃ line, (readReply true unread).2 = .malformed line) ∨
      ∃ q rest, (readReply true unread).2 = .reply q rest) :
    (∀ t : Task, t.IsWritable →
        (⟨unread, true, none⟩ : Process).call (ownProgram processors site) slot t = none) ∨
      ∃ q, ∀ t : Task, t.IsWritable → ∃ p,
        (⟨unread, true, none⟩ : Process).call (ownProgram processors site) slot t =
          some (q, p) := by
  -- What is read to an end is read so whatever is printed behind it.
  rcases h with ⟨line, hm⟩ | ⟨q, rest, hq⟩
  · refine .inl ?_
    intro t hw
    rw [call_ownProgram processors site slot hw, readReply_append_of_malformed hm]
  · refine .inr ⟨q, ?_⟩
    intro t hw
    rw [call_ownProgram processors site slot hw, readReply_append_of_reply hq]
    exact ⟨_, rfl⟩

/-- **A task that is not quiet leaves a frame to be read**, if its call returns a reply at all. -/
theorem call_of_not_isQuiet [Wording] {t : Task} (hw : t.IsWritable)
    (hq : ¬ t.IsQuiet (site.forSlot slot)) {r : Reply}
    (hr : t.reply? (site.forSlot slot) = some r) :
    Process.fresh.call (ownProgram processors site) slot t = none ∨
      ∃ q unread, Process.fresh.call (ownProgram processors site) slot t =
          some (q, ⟨unread, true, none⟩) ∧
        ((∃ line, (readReply true unread).2 = .malformed line) ∨
          ∃ q rest, (readReply true unread).2 = .reply q rest) := by
  have hs := Task.isStored_of_reply? hr
  have hcall := call_ownProgram processors site slot hw []
  rw [hr] at hcall
  simp only [List.nil_append, Option.map_some, Option.getD_some, Option.isSome_some,
    Reply.line] at hcall
  -- Behind what is taken for a frame the true one is still to be read.
  rcases readReply_marked hq true (r.frameBytes ++ [lineFeed]) with
    ⟨line, hm⟩ | ⟨q, unread, hread, hrest⟩
  · rw [hm] at hcall
    exact .inl hcall
  · rw [hread] at hcall
    refine .inr ⟨q, unread, hcall, ?_⟩
    rcases hrest with rfl | ⟨before, rfl⟩
    · exact .inr ⟨r, [], readReply_frame hs true []⟩
    · exact readReply_before_frame before hs []

/-- **A task that is not quiet leads to a wrong answer**: its own, or that of a task behind it. -/
theorem exists_wrong_call [Wording] {t : Task} (hw : t.IsWritable)
    (hr : (t.reply? (site.forSlot slot)).isSome) (hq : ¬ t.IsQuiet (site.forSlot slot)) :
    ∃ t' : Task, t'.IsWritable ∧ (t'.reply? (site.forSlot slot)).isSome ∧
      t'.IsQuiet (site.forSlot slot) ∧
      Process.fresh.calls (ownProgram processors site) slot [t, t'] ≠
        [t, t'].mapM (Task.reply? (site.forSlot slot)) := by
  obtain ⟨r, hr⟩ := Option.isSome_iff_exists.1 hr
  obtain ⟨s₁, s₂, h₁, h₂, hne, hq₁, hq₂⟩ := reply?_nil_ne_reply?_dotless (site.forSlot slot)
  by_contra hall
  -- Behind this task, either of the two others would have to be answered rightly.
  have hright {t' : Task} (hw' : t'.IsWritable) (hq' : t'.IsQuiet (site.forSlot slot)) {s : Reply}
      (hs : t'.reply? (site.forSlot slot) = some s) :
      Process.fresh.calls (ownProgram processors site) slot [t, t'] = some [r, s] := by
    by_contra hwrong
    refine hall ⟨t', hw', by rw [hs]; rfl, hq', ?_⟩
    simpa [List.mapM_cons, hr, hs] using hwrong
  have hright₁ := hright (Task.isWritable_runTestIds _) hq₁ h₁
  have hright₂ := hright (Task.isWritable_runTestIds _) hq₂ h₂
  rcases call_of_not_isQuiet processors site slot hw hq hr with hnone | ⟨q, unread, hc, hread⟩
  · simp [Process.calls, hnone] at hright₁
  · rcases call_of_leftover processors site slot hread with
      hnone | ⟨q', hq'⟩
    · simp [Process.calls, hc, hnone _ (Task.isWritable_runTestIds _)] at hright₁
    · -- What was left unread answers both, but their replies differ.
      obtain ⟨p₁, hp₁⟩ := hq' _ (Task.isWritable_runTestIds [])
      obtain ⟨p₂, hp₂⟩ := hq' _ (Task.isWritable_runTestIds [⟨""⟩])
      simp only [Process.calls, hc, hp₁, hp₂, Option.bind_eq_bind, Option.bind_some,
        Option.some.injEq, List.cons.injEq, and_true] at hright₁ hright₂
      exact hne (hright₁.2.symm.trans hright₂.2)

end Worker

/-- **Replies are isolated from printed bytes exactly if tasks are quiet.**  A live worker process
is called with tasks that come to replies.  A sequence of them during none of which a marker is
printed is answered with exactly the replies that were computed in the worker.  But behind each task
during which one is printed there may stand a quiet task such that the two are not answered with
their replies. -/
theorem calls_eq_replies_exactly [Wording] (processors : Nat) (site : Site σ) (slot : Nat) :
    (∀ tasks : List Task,
      (∀ t ∈ tasks, t.IsWritable ∧ (t.reply? (site.forSlot slot)).isSome ∧
        t.IsQuiet (site.forSlot slot)) →
      Process.fresh.calls (ownProgram processors site) slot tasks =
        tasks.mapM (Task.reply? (site.forSlot slot))) ∧
    ∀ t : Task, t.IsWritable → (t.reply? (site.forSlot slot)).isSome →
      ¬ t.IsQuiet (site.forSlot slot) →
      ∃ t' : Task, t'.IsWritable ∧ (t'.reply? (site.forSlot slot)).isSome ∧
        t'.IsQuiet (site.forSlot slot) ∧
        Process.fresh.calls (ownProgram processors site) slot [t, t'] ≠
          [t, t'].mapM (Task.reply? (site.forSlot slot)) := by
  constructor
  · intro tasks htasks
    exact calls_of_isQuiet processors site slot (fun t ht => (htasks t ht).2.2)
      fun t ht => ⟨(htasks t ht).1, (htasks t ht).2.1⟩
  · intro t hw hr hq
    exact exists_wrong_call processors site slot hw hr hq

/-! ## A forged report -/

section

open scoped Terse

/-- A report without problems. -/
def forgedReport : Report := ⟨1, [], [], 0⟩

/-- Where a body prints the frame of this report, and then fails. -/
def forgingSite : Site Unit :=
  soloSite ((Reply.done forgedReport.stored).frameBytes ++ [lineFeed]) (.failed ["boom"])

/-- **The forged report is believed**, and the true one is not read. -/
theorem forged_report_is_read :
    Process.fresh.calls (ownProgram 4 forgingSite) 0 [soloTask] =
        some [.done forgedReport.stored] ∧
      [soloTask].mapM (Task.reply? (forgingSite.forSlot 0)) = some [.done soloReport.stored] ∧
      Process.fresh.calls (ownProgram 4 forgingSite) 0 [soloTask] ≠
        [soloTask].mapM (Task.reply? (forgingSite.forSlot 0)) := by
  have hrun : ((forgingSite.forSlot 0).registry.runIds (forgingSite.forSlot 0).host
      [soloId]).ending = .finished soloReport := by
    decide +kernel
  have hprinted : soloTask.printed (forgingSite.forSlot 0) =
      (Reply.done forgedReport.stored).frameBytes ++ [lineFeed] := by
    decide +kernel
  have hcall : ∃ q, Process.fresh.call (ownProgram 4 forgingSite) 0 soloTask =
      some (.done forgedReport.stored, q) := by
    have hc := call_ownProgram 4 forgingSite 0 (Task.isWritable_runTestIds [soloId]) []
    rw [show Task.runTestIds [soloId] = soloTask from rfl, hprinted, List.nil_append,
      List.append_assoc, List.singleton_append, readReply_frame forgedReport.isStored_done] at hc
    exact ⟨_, hc⟩
  have hcalls : Process.fresh.calls (ownProgram 4 forgingSite) 0 [soloTask] =
      some [.done forgedReport.stored] := by
    obtain ⟨q, hq⟩ := hcall
    rw [Process.calls, hq]
    rfl
  have htrue : [soloTask].mapM (Task.reply? (forgingSite.forSlot 0)) =
      some [.done soloReport.stored] := by
    rw [List.mapM_cons, soloTask, Task.reply?_runTestIds, hrun]
    rfl
  refine ⟨hcalls, htrue, ?_⟩
  rw [hcalls, htrue]
  simp [forgedReport, soloReport, Report.stored]

end

end SuitePool
