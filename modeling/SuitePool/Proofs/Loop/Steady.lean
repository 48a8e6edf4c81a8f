import Mathlib.Data.List.Basic
import Mathlib.Tactic.Common
import SuitePool.Proofs.Hosts
import SuitePool.Proofs.Worker

/-!
# Suite code inside a worker loop

A worker loop catches the failures and panics of the stages of a case, but nothing catches a getter
that panics while it is asked for its method, nor a panic of the code behind a stage.  If no getter
panics and no panic leaves a case, a task comes to a reply unless suite code ends the process.  Only
the loop itself writes replies: suite code prints, and what it prints is told apart from what the
loop writes.

## Main definitions

* `writtenBytes`
* `Registry.HasSteadyGetters`: no getter panics.
* `Registry.LeaksNoPanic`: no panic leaves a case.

## Main results

* `Registry.isPanic_runIds`, `Registry.isPanic_discoverFile`: runs and discoveries do not panic.
* `Task.ending_run`: a task comes to a reply, ends the process, or a panic leaves a case.
* `Task.isSome_reply?`: a task of tame suites comes to a reply.
* `Task.writtenBytes_run`: a task writes nothing to the stream of replies.
-/

namespace SuitePool

open Text

variable {σ ε φ α β : Type}

/-! ## Code that does not panic -/

namespace Exec

/-- Panics are caught. -/
theorem isPanic_contained (x : Exec ε α) : (x.contained : Exec φ _).ending.isPanic = false := by
  simp only [contained]
  cases x.ending <;> rfl

/-- A run whose failure is caught panics if the run does. -/
theorem isPanic_attempt (x : Exec ε α) :
    (x.attempt : Exec φ _).ending.isPanic = x.ending.isPanic := by
  simp only [attempt]
  cases x.ending <;> rfl

end Exec

/-- **Does no getter panic in a process**, nor while its error is written as a text and dropped? -/
def Registry.HasSteadyGetters (r : Registry σ) (h : Host) : Prop :=
  ∀ s, r.HasSuite s → ∀ name resolve, (name, .getter resolve) ∈ s.members →
    (resolve h).ending.isPanic = false ∧ (resolve h).IsCalm

/-- Does no panic leave a member that is run, while its error is written or dropped? -/
def Member.LeaksNoPanic (h : Host) : Member σ → Prop
  | .method body => ∀ x, (body h x).2.IsCalm
  | .value => True
  | .getter resolve =>
    ∀ b : Body σ, (resolve h).ending = .finished b → ∀ x, (b h x).2.IsCalm

/-- **Does no panic leave a case of a suite?**  The panics of hooks are caught, but not those of the
code behind them, which writes errors and drops them, nor those of the code that drops instances. -/
structure Suite.LeaksNoPanic (s : Suite σ) (h : Host) : Prop where
  construct : (s.construct h).IsCalm
  setUp : ∀ x, (s.setUp h x).2.IsCalm
  tearDown : ∀ x, (s.tearDown h x).2.IsCalm
  drop : ∀ x, (s.drop h x).ending.isPanic = false
  members : ∀ m ∈ s.members, m.2.LeaksNoPanic h

/-- **Does no panic leave a case in a process?** -/
def Registry.LeaksNoPanic (r : Registry σ) (h : Host) : Prop :=
  ∀ s, r.HasSuite s → s.LeaksNoPanic h

/-- The pieces of an act with calm code behind it do not panic where it is caught. -/
theorem Act.IsCalm.has {a : Act φ α} (ha : a.IsCalm) :
    a.Has fun α (x : Exec ε α) => x.ending.isPanic = false where
  caught _ _ _ := Exec.isPanic_contained _
  writing := (Aftermath.isPanic_run _).trans ha.writing
  dropping := (Aftermath.isPanic_run _).trans ha.dropping

theorem Act.IsCalm.hasAsked {a : Act φ α} (ha : a.IsCalm) (hp : a.ending.isPanic = false) :
    a.HasAsked fun α (x : Exec ε α) => x.ending.isPanic = false where
  asked _ _ _ := (Exec.isPanic_attempt _).trans hp
  writing := (Aftermath.isPanic_run _).trans ha.writing
  dropping := (Aftermath.isPanic_run _).trans ha.dropping

/-- The stages of a suite do not panic if no panic leaves its cases. -/
theorem Suite.LeaksNoPanic.hasStages {s : Suite σ} {h : Host} (hs : s.LeaksNoPanic h) :
    s.HasStages (fun α (x : Exec ε α) => x.ending.isPanic = false) h where
  construct := hs.construct.has
  setUp x := (hs.setUp x).has
  tearDown x := (hs.tearDown x).has
  drop x := (Aftermath.isPanic_run _).trans (hs.drop x)
  caughtDrop x := Exec.isPanic_contained _
  dropping x m hm := by
    have hdrop := hs.drop x
    rw [hm] at hdrop
    cases hdrop

/-- **The stages of a case do not panic** if no panic leaves the cases of the suite. -/
theorem Suite.LeaksNoPanic.isPanic_runStages {s : Suite σ} {h : Host} (hs : s.LeaksNoPanic h)
    {module method : String} {b : Body σ} (hb : (s.bind module h method).ending = .finished b) :
    (s.runStages module h method b : Exec ε _).ending.isPanic = false := by
  refine Exec.isCleanable_not_isPanic.runStages hs.hasStages (fun x => ?_) module method
  rcases mem_of_bind hb with ⟨name, hm⟩ | ⟨name, resolve, hm, hb⟩
  · exact (hs.members _ hm x).has
  · exact (hs.members _ hm b hb x).has

namespace Registry

variable {r : Registry σ} {h : Host}

theorem has_of_leaksNoPanic (hr : r.HasSteadyGetters h) (hl : r.LeaksNoPanic h) {s : Suite σ}
    (hs : r.HasSuite s) : s.Has (fun α (x : Exec ε α) => x.ending.isPanic = false) h where
  toHasStages := (hl s hs).hasStages
  members := by
    rintro ⟨name, member⟩ hm
    have hmember := (hl s hs).members _ hm
    cases member with
    | method body => exact fun x => (hmember x).has
    | value => trivial
    | getter resolve =>
      obtain ⟨hp, hcalm⟩ := hr s hs name resolve hm
      exact ⟨hcalm.hasAsked hp, fun b hb x => (hmember b hb x).has⟩

/-- **A run does not panic** if no getter panics, and no panic leaves a case. -/
theorem isPanic_runIds (hr : r.HasSteadyGetters h) (hl : r.LeaksNoPanic h) (ids : List TestId) :
    (r.runIds h ids).ending.isPanic = false :=
  Exec.isCleanable_not_isPanic.runIds (fun _ => rfl) (fun _ hs => has_of_leaksNoPanic hr hl hs) ids

/-- **A discovery does not panic** if no getter panics. -/
theorem isPanic_discoverFile (hr : r.HasSteadyGetters h) (t : FileTree) (modulePath : List Path)
    (file : Path) : (r.discoverFile t h modulePath file).ending.isPanic = false := by
  refine Exec.isCleanable_not_isPanic.discoverFile (fun _ => rfl)
    (fun s hs name resolve hm => ?_) (fun _ => rfl) t modulePath file
  obtain ⟨hp, hcalm⟩ := hr s hs name resolve hm
  exact hcalm.hasAsked hp

end Registry

/-- The reply to a task is made of a run whose failure is caught. -/
theorem Exec.ending_attempt_map (x : Exec ε α) (f : Except ε α → β) :
    (∃ b, ((x.attempt : Exec φ _) >>= fun a => pure (f a)).ending = .finished b) ∨
      (∃ code, ((x.attempt : Exec φ _) >>= fun a => pure (f a)).ending = .exited code) ∨
      ∃ m, ((x.attempt : Exec φ _) >>= fun a => pure (f a)).ending = .panicked m ∧
        x.ending.isPanic = true := by
  cases hx : x.ending with
  | finished a =>
    exact .inl ⟨f (.ok a), ending_bind_of_finished (by simp only [attempt, hx]) _⟩
  | failed e =>
    exact .inl ⟨f (.error e), ending_bind_of_finished (by simp only [attempt, hx]) _⟩
  | panicked m =>
    exact .inr (.inr ⟨m, ending_bind_of_panicked (by simp only [attempt, hx]) _, rfl⟩)
  | exited code =>
    exact .inr (.inl ⟨code, ending_bind_of_exited (by simp only [attempt, hx]) _⟩)

/-- **A task comes to a reply, or suite code ends the process**, or a panic leaves a case that is
run. -/
theorem Task.ending_run {site : Site σ} (hg : site.registry.HasSteadyGetters site.host) (t : Task) :
    (∃ reply, (t.run site).ending = .finished reply) ∨
      (∃ code, (t.run site).ending = .exited code) ∨
      ∃ message, (t.run site).ending = .panicked message ∧ (∃ ids, t = .runTestIds ids) ∧
        ¬ site.registry.LeaksNoPanic site.host := by
  cases t with
  | discoverFile file modulePath =>
    rcases Exec.ending_attempt_map (site.registry.discoverFile site.tree site.host modulePath file)
      _ with h | h | ⟨m, -, hp⟩
    · exact .inl h
    · exact .inr (.inl h)
    · rw [Registry.isPanic_discoverFile hg] at hp
      cases hp
  | runTestIds ids =>
    rcases Exec.ending_attempt_map (site.registry.runIds site.host ids) _ with h | h | ⟨m, hm, hp⟩
    · exact .inl h
    · exact .inr (.inl h)
    · refine .inr (.inr ⟨m, hm, ⟨ids, rfl⟩, fun hl => ?_⟩)
      rw [Registry.isPanic_runIds hg hl] at hp
      cases hp

/-- **A task comes to a reply** if all code of the suites is tame. -/
theorem Task.isSome_reply? {site : Site σ} (hr : site.registry.IsTameIn site.host) (t : Task) :
    (t.reply? site).isSome := by
  cases t with
  | discoverFile file modulePath =>
    have horderly :=
      Registry.isOrderly_discoverFile hr.hasTameGettersIn site.tree modulePath file
    rw [reply?_discoverFile]
    generalize (site.registry.discoverFile site.tree site.host modulePath file).ending = e
      at horderly
    cases horderly <;> rfl
  | runTestIds ids =>
    have horderly := Registry.isOrderly_runIds hr ids
    rw [reply?_runTestIds]
    generalize (site.registry.runIds site.host ids).ending = e at horderly
    cases horderly <;> rfl

/-! ## Code that writes nothing -/

/-- **The bytes that a worker loop writes**: its replies, and nothing that suite code prints. -/
def writtenBytes (es : List Event) : Bytes :=
  es.flatMap fun
    | .wrote bytes => bytes
    | _ => []

theorem writtenBytes_append (es fs : List Event) :
    writtenBytes (es ++ fs) = writtenBytes es ++ writtenBytes fs :=
  List.flatMap_append

/-- Nothing is written if no event writes anything. -/
theorem writtenBytes_eq_nil {es : List Event} (h : ∀ e ∈ es, writtenBytes [e] = []) :
    writtenBytes es = [] := by
  rw [writtenBytes, List.flatMap_eq_nil_iff]
  intro e he
  simpa [writtenBytes] using h e he

/-- Suite code may print anything. -/
theorem Suite.prints_true (s : Suite σ) (h : Host) : s.Prints (fun _ => True) h where
  construct := ⟨trivial, trivial, trivial⟩
  setUp _ := ⟨trivial, trivial, trivial⟩
  tearDown _ := ⟨trivial, trivial, trivial⟩
  drop _ := ⟨trivial, trivial, trivial⟩
  members := by
    rintro ⟨name, member⟩ -
    cases member with
    | method body => exact fun _ => ⟨trivial, trivial, trivial⟩
    | value => trivial
    | getter resolve =>
      exact ⟨⟨trivial, trivial, trivial⟩, fun _ _ _ => ⟨trivial, trivial, trivial⟩⟩

/-- Suite code writes nothing. -/
theorem Suite.has_writtenBytes (s : Suite σ) (h : Host) :
    s.Has (fun α (x : Exec ε α) => ∀ e ∈ x.events, writtenBytes [e] = []) h :=
  Suite.Prints.has (fun _ _ _ => rfl) (fun _ _ => rfl) (s.prints_true h)

/-- **A task writes nothing to the stream of replies.** -/
theorem Task.writtenBytes_run (site : Site σ) (t : Task) :
    writtenBytes (t.run site).events = [] := by
  have hP := Exec.isCleanable_forall_events (ε := Error) fun e => writtenBytes [e] = []
  apply writtenBytes_eq_nil
  cases t with
  | discoverFile file modulePath =>
    refine Exec.isCleanable_forall_events _ |>.bind ?_ fun _ _ => List.forall_mem_nil _
    exact hP.discoverFile (fun _ => List.forall_mem_nil _)
      (fun s _ name resolve hm => ((s.has_writtenBytes site.host).members _ hm).1)
      (fun _ => List.forall_mem_singleton.2 rfl) site.tree modulePath file
  | runTestIds ids =>
    refine Exec.isCleanable_forall_events _ |>.bind ?_ fun _ _ => List.forall_mem_nil _
    exact hP.runIds (fun _ => List.forall_mem_nil _) (fun s _ => s.has_writtenBytes site.host) ids

end SuitePool
