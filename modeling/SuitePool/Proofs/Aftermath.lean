import Mathlib.Tactic.Common
import SuitePool.Discovery
import SuitePool.Proofs.Exec
import SuitePool.Run

/-!
# Suite code that nobody calls by name

Behind a hook whose error or panic was caught, suite code may run once more: the error is written
as a text and dropped, and so is the payload of a panic, and at the end of its case the instance.
What such code does is seen like anything else, and its panics are not caught where it runs.

A property of code that composition and cleaning up keep is therefore one of the stages of a case
if it is one of all their pieces, the hooks as they are caught and the code behind them.

## Main definitions

* `Act.IsClean`, `Act.IsCalm`: the code behind an act finishes, or does not panic.
* `Act.Has`, `Member.Has`, `Suite.Has`: a property of all pieces of code of an act, of a member and
  of a suite.
* `Act.Prints`, `Suite.Prints`: a property of all bytes that are printed.

## Main results

* `Aftermath.finished_run_iff`, `Aftermath.isPanic_run`: how such code ends.
* `Exec.IsCleanable.runStages`, `Exec.IsComposable.bindMember`, `Exec.IsCleanable.inspectMember`:
  what composition keeps, stages, bindings and inspections have.
* `Suite.mem_of_bind`: where a body comes from.
* `Suite.Prints.has`: what is so of calls and of printed bytes is so of all that is seen.
-/

namespace SuitePool

open Text

variable {σ ε φ α : Type}

/-! ## How it ends -/

namespace Aftermath

theorem ending_run_congr {a b : Aftermath} (h : a.ending = b.ending) :
    (a.run : Exec ε Unit).ending = b.run.ending := by
  simp only [run, Exec.mapError, h]

theorem finished_run_iff {a : Aftermath} :
    (a.run : Exec ε Unit).ending = .finished () ↔ a.ending = .finished () := by
  simp only [run, Exec.mapError]
  cases a.ending with
  | failed e => exact e.elim
  | _ => simp

theorem isPanic_run (a : Aftermath) :
    (a.run : Exec ε Unit).ending.isPanic = a.ending.isPanic := by
  simp only [run, Exec.mapError]
  cases a.ending with
  | failed e => exact e.elim
  | _ => rfl

theorem panicked_run_iff {a : Aftermath} {m : Option String} :
    (a.run : Exec ε Unit).ending = .panicked m ↔ a.ending = .panicked m := by
  simp only [run, Exec.mapError]
  cases a.ending with
  | failed e => exact e.elim
  | _ => simp

theorem isOrderly_run {a : Aftermath} (h : a.ending = .finished ()) :
    (a.run : Exec ε Unit).ending.IsOrderly := by
  rw [finished_run_iff.2 h]
  exact .finished ()

end Aftermath

namespace Act

theorem finished_unnamed_iff {a : Act Empty Unit} :
    (a.unnamed : Exec ε Unit).ending = .finished () ↔ a.ending = .finished () :=
  Aftermath.finished_run_iff

/-- **Does the code behind an act finish?**  Its error can be written, and everything be dropped. -/
structure IsClean (a : Act φ α) : Prop where
  writing : a.writing.ending = .finished ()
  dropping : a.dropping.ending = .finished ()

/-- **Does no code behind an act panic?** -/
structure IsCalm (a : Act φ α) : Prop where
  writing : a.writing.ending.isPanic = false
  dropping : a.dropping.ending.isPanic = false

theorem isClean_ofEnding (e : Ending φ α) : (ofEnding e).IsClean := ⟨rfl, rfl⟩

/-- **The error of an act is written** if the code behind the act finishes, and only then. -/
theorem finished_writeError_iff {a : Act φ α} :
    (a.writeError : Exec ε Unit).ending = .finished () ↔ a.IsClean := by
  rw [writeError, Exec.finished_bind_iff]
  constructor
  · rintro ⟨_, hw, hd⟩
    exact ⟨Aftermath.finished_run_iff.1 (Exec.finished_of_cleanedBy hw),
      Aftermath.finished_run_iff.1 hd⟩
  · intro h
    have hw : (a.writing.run : Exec ε Unit).ending = .finished () :=
      Aftermath.finished_run_iff.2 h.writing
    rw [Exec.cleanedBy_of_isPanic_eq_false (by rw [hw]; rfl)]
    exact ⟨(), hw, Aftermath.finished_run_iff.2 h.dropping⟩

end Act

/-- **A getter yields a method** if it finishes with it, and only then. -/
theorem Act.finished_resolved_iff {a : Act Failure α} {module suite name : String} {e : Error}
    {b : α} :
    (a.resolved module suite name e).ending = .finished b ↔ a.ending = .finished b := by
  simp only [resolved, Exec.finished_bind_iff, Exec.attempt, Act.run]
  cases a.ending with
  | finished b' => simp [pure, Exec.ofEnding]
  | failed f =>
    simp only [Ending.finished.injEq, exists_eq_left', reduceCtorEq, iff_false]
    intro h
    obtain ⟨u, -, h⟩ := Exec.finished_of_bind h
    cases h
  | panicked | exited => simp

/-- What is caught of code that nobody calls by name is its panic. -/
theorem Act.panicked_of_caught_unnamed {a : Act Empty Unit} {m : Option String}
    (h : ((a.unnamed : Exec Empty Unit).contained : Exec ε _).ending =
      .finished (.error (.panicked m))) : a.ending = .panicked m := by
  simp only [Exec.contained] at h
  cases hx : (a.unnamed : Exec Empty Unit).ending <;> rw [hx] at h <;> cases h
  exact Aftermath.panicked_run_iff.1 hx

/-- **A body that is bound** is a method of the suite, or one that a getter of it yields. -/
theorem Suite.mem_of_bind {s : Suite σ} {h : Host} {module method : String} {b : Body σ}
    (hb : (s.bind module h method).ending = .finished b) :
    (∃ name, (name, .method b) ∈ s.members) ∨
      ∃ name resolve, (name, .getter resolve) ∈ s.members ∧ (resolve h).ending = .finished b := by
  unfold bind at hb
  split_ifs at hb
  · cases hb
  · cases hf : s.members.find? (fun m => m.1 == method) with
    | none => rw [hf] at hb; cases hb
    | some m =>
      obtain ⟨name, member⟩ := m
      have hmem := List.mem_of_find?_eq_some hf
      rw [hf] at hb
      cases member with
      | method body =>
        cases hb
        exact .inl ⟨name, hmem⟩
      | value => cases hb
      | getter resolve => exact .inr ⟨name, resolve, hmem, Act.finished_resolved_iff.1 hb⟩

/-! ## Properties of all pieces -/

section Pieces

variable {P : (α : Type) → Exec ε α → Prop}

/-- Has the code behind an act a property? -/
structure Act.HasBehind (P : (α : Type) → Exec ε α → Prop) (a : Act φ α) : Prop where
  writing : P _ a.writing.run
  dropping : P _ a.dropping.run

/-- **Has all code of an act a property**, its hook as it is caught, and the code behind it? -/
structure Act.Has (P : (α : Type) → Exec ε α → Prop) (a : Act φ α) : Prop
    extends a.HasBehind P where
  caught : ∀ module suite hook, P _ (a.run module suite hook).contained

/-- Has all code of a getter a property?  Its failures are caught, but no panics. -/
structure Act.HasAsked (P : (α : Type) → Exec ε α → Prop) (a : Act φ α) : Prop
    extends a.HasBehind P where
  asked : ∀ module suite hook, P _ (a.run module suite hook).attempt

/-- Has all code of a member a property? -/
def Member.Has (P : (α : Type) → Exec ε α → Prop) (h : Host) : Member σ → Prop
  | .method body => ∀ x, (body h x).2.Has P
  | .value => True
  | .getter resolve => (resolve h).HasAsked P ∧
      ∀ b : Body σ, (resolve h).ending = .finished b → ∀ x, (b h x).2.Has P

/-- Has the code a property that drops instances of a suite?  It runs where panics are caught and
where they are not. -/
structure Suite.HasDrop (P : (α : Type) → Exec ε α → Prop) (s : Suite σ) (h : Host) : Prop where
  drop : ∀ x, P _ (s.drop h x).unnamed
  caughtDrop : ∀ x, P _ ((s.drop h x).unnamed : Exec Empty Unit).contained
  dropping : ∀ x m, (s.drop h x).ending = .panicked m → P _ (s.drop h x).dropping.run

/-- **Has all code of a suite a property**, apart from its members? -/
structure Suite.HasStages (P : (α : Type) → Exec ε α → Prop) (s : Suite σ) (h : Host) : Prop
    extends s.HasDrop P h where
  construct : (s.construct h).Has P
  setUp : ∀ x, (s.setUp h x).2.Has P
  tearDown : ∀ x, (s.tearDown h x).2.Has P

/-- **Has all code of a suite a property?** -/
structure Suite.Has (P : (α : Type) → Exec ε α → Prop) (s : Suite σ) (h : Host) : Prop
    extends s.HasStages P h where
  members : ∀ m ∈ s.members, m.2.Has P h

theorem Suite.Has.of_bind {s : Suite σ} {h : Host} (hs : s.Has P h) {module method : String}
    {b : Body σ} (hb : (s.bind module h method).ending = .finished b) (x : σ) :
    (b h x).2.Has P := by
  rcases mem_of_bind hb with ⟨name, hm⟩ | ⟨name, resolve, hm, hb⟩
  · exact hs.members _ hm x
  · exact (hs.members _ hm).2 b hb x

namespace Exec.IsCleanable

variable {s : Suite σ} {h : Host} {b : Body σ}

theorem writeError (hP : Exec.IsCleanable P) {a : Act φ α} (ha : a.HasBehind P) :
    P _ a.writeError :=
  hP.bind (hP.cleanedBy ha.writing ha.dropping) fun _ _ => ha.dropping

theorem settle (hP : Exec.IsCleanable P) {a : Act φ α} (ha : a.HasBehind P) : P _ a.settle := by
  unfold Act.settle
  cases a.ending with
  | failed e => exact hP.writeError ha
  | panicked m => exact ha.dropping
  | _ => exact hP.pure ()

/-- A stage has a property if its hook has it, and what drops the instance. -/
theorem runStage (hP : Exec.IsCleanable P) (hs : s.HasDrop P h) {a : Act Failure Unit}
    (ha : a.Has P) (module : String) (reason : Reason) (hook : Hook) (left : σ) :
    P _ (s.runStage module h reason hook left a) := by
  refine hP.bind (ha.caught _ _ _) fun found _ => ?_
  exact hP.bind (hP.cleanedBy (hP.settle ha.toHasBehind) (hs.drop left)) fun _ _ => hP.pure _

theorem abandon (hP : Exec.IsCleanable P) (hs : s.HasDrop P h) {a : Act Failure Unit}
    (ha : a.HasBehind P) (left : σ) (c : Exec.Caught Failure) : P _ (s.abandon h left a c) := by
  cases c with
  | failed f =>
    refine hP.bind (hs.caughtDrop left) fun dropped hd => ?_
    rcases dropped with (e | m) | u
    · exact e.elim
    · exact hP.bind (hs.dropping left m (Act.panicked_of_caught_unnamed hd)) fun _ _ => hP.pure _
    · exact hP.bind (hP.writeError ha) fun _ _ => hP.pure _
  | panicked m =>
    refine hP.bind (hP.whilePanicking (hs.drop left)) fun _ _ => ?_
    exact hP.bind ha.dropping fun _ _ => hP.pure _

/-- **A property that is kept is one of the stages of a case**, if all pieces have it. -/
theorem runStages (hP : Exec.IsCleanable P) (hs : s.HasStages P h) (hb : ∀ x, (b h x).2.Has P)
    (module method : String) : P _ (s.runStages module h method b) := by
  unfold Suite.runStages
  refine hP.bind (hs.construct.caught _ _ _) fun built _ => ?_
  -- Building panics or finishes: there is no error for it to fail with.
  rcases built with (e | m) | fresh
  · exact e.elim
  · exact hP.bind hs.construct.dropping fun _ _ => hP.pure _
  · refine hP.bind ((hs.setUp fresh).caught _ _ _) fun ready _ => ?_
    cases ready with
    | error c => exact hP.abandon hs.toHasDrop (hs.setUp fresh).toHasBehind _ c
    | ok u =>
      unfold Suite.runBody
      refine hP.bind (hP.runStage hs.toHasDrop (hb _) _ _ _ _) fun ofBody _ => ?_
      refine hP.bind (hP.runStage hs.toHasDrop (hs.tearDown _) _ _ _ _) fun ofTearDown _ => ?_
      exact hP.bind (hs.drop _) fun _ _ => hP.pure _

/-- **A property that is kept is one of inspections**, if all pieces of getters have it. -/
theorem inspectMember (hP : Exec.IsCleanable P) {m : String × Member σ}
    (hg : ∀ resolve, m.2 = .getter resolve → (resolve h).HasAsked P) (module suite : String) :
    P _ (inspectMember module suite h m) := by
  obtain ⟨name, member⟩ := m
  cases member with
  | method body => exact hP.pure _
  | value => exact hP.pure _
  | getter resolve =>
    have hg := hg resolve rfl
    refine hP.bind (hg.asked _ _ _) fun found _ => ?_
    cases found with
    | ok body => exact hP.pure _
    | error f => exact hP.bind (hP.writeError hg.toHasBehind) fun _ _ => hP.pure _

end Exec.IsCleanable

end Pieces

/-- **A property that composition keeps is one of bindings**, if all pieces of getters have it. -/
theorem Exec.IsComposable.bindMember {P : (α : Type) → Exec Error α → Prop}
    (hP : Exec.IsComposable P) (hfail : ∀ {α : Type} (e : Error), P α (.fail e)) {s : Suite σ}
    {h : Host} (hs : s.Has P h) (module method : String) : P _ (s.bind module h method) := by
  unfold Suite.bind
  split_ifs
  · exact hfail _
  · cases hf : s.members.find? (fun m => m.1 == method) with
    | none => exact hfail _
    | some m =>
      obtain ⟨name, member⟩ := m
      cases member with
      | method body => exact hP.pure _
      | value => exact hfail _
      | getter resolve =>
        obtain ⟨hg, -⟩ := hs.members _ (List.mem_of_find?_eq_some hf)
        refine hP.bind (hg.asked _ _ _) fun found _ => ?_
        cases found with
        | ok body => exact hP.pure _
        | error f => exact hP.bind hg.dropping fun _ _ => hfail _

/-! ## What is printed -/

/-- **Is this so of all bytes that an act prints**, and the code behind it? -/
structure Act.Prints (q : Bytes → Prop) (a : Act φ α) : Prop where
  printed : q a.printed
  writing : q a.writing.printed
  dropping : q a.dropping.printed

section Events

variable {p : Event → Prop} {q : Bytes → Prop}

theorem forall_mem_printedEvents (hprinted : ∀ bs, q bs → p (.printed bs)) {bs : Bytes}
    (h : q bs) : ∀ e ∈ printedEvents bs, p e := by
  unfold printedEvents
  split_ifs
  · simp
  · simpa using hprinted bs h

variable (hcalled : ∀ module suite hook, p (.called module suite hook))
  (hprinted : ∀ bs, q bs → p (.printed bs))

include hprinted

theorem Aftermath.forall_events_run {a : Aftermath} (h : q a.printed) :
    ∀ e ∈ (a.run : Exec ε Unit).events, p e :=
  forall_mem_printedEvents hprinted h

include hcalled

theorem Act.forall_events_run {a : Act φ α} (h : q a.printed) (module suite : String)
    (hook : Hook) : ∀ e ∈ (a.run module suite hook).events, p e :=
  List.forall_mem_cons.2 ⟨hcalled _ _ _, forall_mem_printedEvents hprinted h⟩

/-- What is so of all calls and of the bytes that are printed is so of all that is seen. -/
theorem Act.Prints.has {a : Act φ α} (h : a.Prints q) :
    a.Has fun α (x : Exec ε α) => ∀ e ∈ x.events, p e where
  caught := Act.forall_events_run hcalled hprinted h.printed
  writing := Aftermath.forall_events_run hprinted h.writing
  dropping := Aftermath.forall_events_run hprinted h.dropping

theorem Act.Prints.hasAsked {a : Act φ α} (h : a.Prints q) :
    a.HasAsked fun α (x : Exec ε α) => ∀ e ∈ x.events, p e where
  asked := Act.forall_events_run hcalled hprinted h.printed
  writing := Aftermath.forall_events_run hprinted h.writing
  dropping := Aftermath.forall_events_run hprinted h.dropping

end Events

/-- Is this so of all bytes that a member prints? -/
def Member.Prints (q : Bytes → Prop) (h : Host) : Member σ → Prop
  | .method body => ∀ x, (body h x).2.Prints q
  | .value => True
  | .getter resolve => (resolve h).Prints q ∧
      ∀ b : Body σ, (resolve h).ending = .finished b → ∀ x, (b h x).2.Prints q

/-- **Is this so of all bytes that the code of a suite prints?** -/
structure Suite.Prints (q : Bytes → Prop) (s : Suite σ) (h : Host) : Prop where
  construct : (s.construct h).Prints q
  setUp : ∀ x, (s.setUp h x).2.Prints q
  tearDown : ∀ x, (s.tearDown h x).2.Prints q
  drop : ∀ x, (s.drop h x).Prints q
  members : ∀ m ∈ s.members, m.2.Prints q h

/-- **What is so of all calls and of the bytes that a suite prints** is so of all that is seen. -/
theorem Suite.Prints.has {p : Event → Prop} {q : Bytes → Prop}
    (hcalled : ∀ module suite hook, p (.called module suite hook))
    (hprinted : ∀ bs, q bs → p (.printed bs)) {s : Suite σ} {h : Host} (hs : s.Prints q h) :
    s.Has (fun α (x : Exec ε α) => ∀ e ∈ x.events, p e) h where
  construct := hs.construct.has hcalled hprinted
  setUp x := (hs.setUp x).has hcalled hprinted
  tearDown x := (hs.tearDown x).has hcalled hprinted
  drop x := forall_mem_printedEvents hprinted (hs.drop x).printed
  caughtDrop x := forall_mem_printedEvents hprinted (hs.drop x).printed
  dropping x _ _ := Aftermath.forall_events_run hprinted (hs.drop x).dropping
  members := by
    rintro ⟨name, member⟩ hm
    have hmember := hs.members _ hm
    cases member with
    | method body => exact fun x => (hmember x).has hcalled hprinted
    | value => trivial
    | getter resolve =>
      exact ⟨hmember.1.hasAsked hcalled hprinted,
        fun b hb x => (hmember.2 b hb x).has hcalled hprinted⟩

end SuitePool
