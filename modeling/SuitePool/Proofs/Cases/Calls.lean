import Mathlib.Data.Set.List
import Mathlib.Tactic.Common
import SuitePool.Proofs.Aftermath

/-!
# The calls of a case

A case calls its hooks in one order: a fresh instance is built and set up, and what was set up is
used once and torn down, whatever the body did.  Behind each hook runs the code that writes its
error and drops what it left, and this code calls no hooks.  It is the only code of a case that
nothing catches: a panic of it leaves the case, which is over then, as it is when suite code ends
its process.

## Main definitions

* `Call`: a call of a hook, with what was printed.
* `Suite.Lifecycle`: the calls of a case that is over.
* `Suite.CutShort`: the calls of a case that is left on its way.

## Main results

* `Exec.shows_printed`: what is seen of code that only prints.
* `Suite.runStage_cases`, `Suite.runBody_cases`: stages of a case.
* `Suite.runStages_cases`, `Suite.runCase_cases`: a case is over, or is left on its way.
-/

namespace SuitePool

open Text

variable {σ ε φ α β : Type}

/-! ## Calls -/

/-- **A call of a hook**, with what the hook printed and what was printed behind it. -/
structure Call where
  hook : Hook
  printed : Bytes
  /-- What the code behind the hook printed, piece by piece. -/
  behind : List Bytes

/-- A call of a hook that does what an act says. -/
def Act.call (a : Act ε α) (hook : Hook) (behind : List Bytes) : Call := ⟨hook, a.printed, behind⟩

/-- What is seen of a call of a hook of a suite of a module. -/
def Call.events (module suite : String) (c : Call) : List Event :=
  .called module suite c.hook :: (printedEvents c.printed ++ c.behind.map .printed)

/-- **What is seen of calls**, one after the other. -/
def eventsOfCalls (module suite : String) (calls : List Call) : List Event :=
  calls.flatMap (Call.events module suite)

theorem eventsOfCalls_append (module suite : String) (calls calls' : List Call) :
    eventsOfCalls module suite (calls ++ calls') =
      eventsOfCalls module suite calls ++ eventsOfCalls module suite calls' :=
  List.flatMap_append

theorem Act.events_run (a : Act ε α) (module suite : String) (hook : Hook) :
    (a.run module suite hook).events = eventsOfCalls module suite [a.call hook []] := by
  simp only [run, eventsOfCalls, call, Call.events, List.flatMap_singleton, List.map_nil,
    List.append_nil]

/-- What is printed behind a call belongs to it. -/
theorem Act.eventsOfCalls_behind (a : Act ε α) (module suite : String) (hook : Hook)
    (behind behind' : List Bytes) :
    eventsOfCalls module suite [a.call hook behind] ++ behind'.map .printed =
      eventsOfCalls module suite [a.call hook (behind ++ behind')] := by
  simp only [eventsOfCalls, call, Call.events, List.flatMap_singleton, List.map_append,
    List.cons_append, List.append_assoc]

/-! ## Code that only prints -/

/-- **Code that only prints**, and does not fail, is seen as pieces that are printed. -/
theorem Exec.shows_printed {x : Exec ε α} (hp : ∀ e ∈ x.events, ∃ bytes, e = .printed bytes)
    (hf : x.ending.isFailure = false) :
    ∃ behind : List Bytes, (∃ a, x.Shows (behind.map .printed) (.finished a)) ∨
      ∃ e : Ending Empty Empty, x.Shows (behind.map .printed) e.ofEmpty := by
  obtain ⟨behind, hbehind⟩ : x.events ∈ Set.range (List.map Event.printed) := by
    rw [Set.range_list_map]
    intro e he
    obtain ⟨bytes, rfl⟩ := hp e he
    exact ⟨bytes, rfl⟩
  refine ⟨behind, ?_⟩
  rcases Ending.cases_of_not_isFailure hf with ⟨a, ha⟩ | ⟨e, he⟩
  · exact .inl ⟨a, hbehind.symm, ha⟩
  · exact .inr ⟨e, hbehind.symm, he⟩

theorem Aftermath.isFailure_run (a : Aftermath) :
    (a.run : Exec ε Unit).ending.isFailure = false := by
  simp only [run, Exec.mapError]
  cases a.ending with
  | failed e => exact e.elim
  | _ => rfl

theorem Exec.isFailure_contained (x : Exec ε α) :
    (x.contained : Exec φ _).ending.isFailure = false := by
  simp only [contained]
  cases x.ending <;> rfl

/-- The code behind an act does not fail. -/
theorem Act.hasBehind_not_isFailure (a : Act φ α) :
    a.HasBehind fun α (x : Exec ε α) => x.ending.isFailure = false where
  writing := Aftermath.isFailure_run _
  dropping := Aftermath.isFailure_run _

/-- The code behind an act only prints. -/
theorem Act.hasBehind_printed (a : Act φ α) :
    a.HasBehind fun α (x : Exec ε α) => ∀ e ∈ x.events, ∃ bytes, e = .printed bytes where
  writing := Aftermath.forall_events_run (q := fun _ => True) (fun bytes _ => ⟨bytes, rfl⟩) trivial
  dropping := Aftermath.forall_events_run (q := fun _ => True) (fun bytes _ => ⟨bytes, rfl⟩) trivial

namespace Suite

variable (s : Suite σ) (h : Host)

/-- The code that drops an instance does not fail. -/
theorem hasDrop_not_isFailure :
    s.HasDrop (fun α (x : Exec ε α) => x.ending.isFailure = false) h where
  drop _ := Aftermath.isFailure_run _
  caughtDrop _ := Exec.isFailure_contained _
  dropping _ _ _ := Aftermath.isFailure_run _

/-- The code that drops an instance only prints. -/
theorem hasDrop_printed :
    s.HasDrop (fun α (x : Exec ε α) => ∀ e ∈ x.events, ∃ bytes, e = .printed bytes) h where
  drop _ := forall_mem_printedEvents (q := fun _ => True) (fun bytes _ => ⟨bytes, rfl⟩) trivial
  caughtDrop _ :=
    forall_mem_printedEvents (q := fun _ => True) (fun bytes _ => ⟨bytes, rfl⟩) trivial
  dropping _ _ _ := (Act.hasBehind_printed _).dropping

end Suite

/-! ## The calls of a case -/

/-- **May code end so that calls a hook as its last one?**  A hook that ends its process decides. -/
def Act.EndsWith (a : Act ε α) (e : Ending Empty Empty) : Prop :=
  ∀ code, a.ending = .exited code → e = .exited code

section Lifecycle

variable (s : Suite σ) (host : Host) (method : String) (body : Body σ)

/-- **The calls of a case** that is over. -/
inductive Suite.Lifecycle : List Call → Prop where
  /-- The instance is not built. -/
  | unbuilt {message : Option String} {behind : List Bytes}
      (hbuilt : (s.construct host).ending = .panicked message) :
      Lifecycle [(s.construct host).call .construct behind]
  /-- The instance is not set up. -/
  | unready {fresh ready : σ} {a : Act Failure Unit} {behind : List Bytes}
      (hbuilt : (s.construct host).ending = .finished fresh)
      (hready : s.setUp host fresh = (ready, a)) (hfails : a.ending ≠ .finished ())
      (hstays : a.ending.isExit = false) :
      Lifecycle [(s.construct host).call .construct [], a.call .setUp behind]
  /-- What was set up is used once and torn down, however the body ended. -/
  | complete {fresh ready used left : σ} {a b c : Act Failure Unit} {behind behind' : List Bytes}
      (hbuilt : (s.construct host).ending = .finished fresh)
      (hready : s.setUp host fresh = (ready, a)) (hset : a.ending = .finished ())
      (hused : body host ready = (used, b)) (hstays : b.ending.isExit = false)
      (hleft : s.tearDown host used = (left, c)) (hover : c.ending.isExit = false) :
      Lifecycle [(s.construct host).call .construct [], a.call .setUp [],
        b.call (.body method) behind, c.call .tearDown behind']

/-- **The calls of a case that is left on its way**, because suite code ends the process or a panic
is not caught, up to the one in which or behind which this happens. -/
inductive Suite.CutShort : List Call → Ending Empty Empty → Prop where
  /-- At the building of the instance. -/
  | construct {behind : List Bytes} {e : Ending Empty Empty}
      (hbuilt : ∀ fresh, (s.construct host).ending ≠ .finished fresh)
      (hends : (s.construct host).EndsWith e) :
      CutShort [(s.construct host).call .construct behind] e
  /-- At its set-up. -/
  | setUp {fresh ready : σ} {a : Act Failure Unit} {behind : List Bytes} {e : Ending Empty Empty}
      (hbuilt : (s.construct host).ending = .finished fresh)
      (hready : s.setUp host fresh = (ready, a)) (hset : a.ending ≠ .finished ())
      (hends : a.EndsWith e) :
      CutShort [(s.construct host).call .construct [], a.call .setUp behind] e
  /-- At the body. -/
  | body {fresh ready used : σ} {a b : Act Failure Unit} {behind : List Bytes}
      {e : Ending Empty Empty} (hbuilt : (s.construct host).ending = .finished fresh)
      (hready : s.setUp host fresh = (ready, a)) (hset : a.ending = .finished ())
      (hused : body host ready = (used, b)) (hbody : b.ending ≠ .finished ())
      (hends : b.EndsWith e) :
      CutShort [(s.construct host).call .construct [], a.call .setUp [],
        b.call (.body method) behind] e
  /-- At the tear-down, or when the instance is dropped. -/
  | tearDown {fresh ready used left : σ} {a b c : Act Failure Unit} {behind behind' : List Bytes}
      {e : Ending Empty Empty} (hbuilt : (s.construct host).ending = .finished fresh)
      (hready : s.setUp host fresh = (ready, a)) (hset : a.ending = .finished ())
      (hused : body host ready = (used, b)) (hstays : b.ending.isExit = false)
      (hleft : s.tearDown host used = (left, c)) (hends : c.EndsWith e) :
      CutShort [(s.construct host).call .construct [], a.call .setUp [],
        b.call (.body method) behind, c.call .tearDown behind'] e

end Lifecycle

/-! ## Stages -/

section Stages

variable {module suite : String} {hook : Hook} {calls : List Call}

/-- A hook ends the process, finishes, or goes wrong in a way that is caught. -/
theorem Act.contained_cases (a : Act ε α) (module suite : String) (hook : Hook) :
    (∃ code, a.ending = .exited code ∧
        ((a.run module suite hook).contained : Exec φ _).ending = .exited code) ∨
      a.ending.isExit = false ∧
        ((∃ v, a.ending = .finished v ∧
            ((a.run module suite hook).contained : Exec φ _).ending = .finished (.ok v)) ∨
          (∀ v, a.ending ≠ .finished v) ∧ ∃ c,
            ((a.run module suite hook).contained : Exec φ _).ending = .finished (.error c)) := by
  simp only [Exec.contained, Act.run]
  cases a.ending with
  | finished v => exact .inr ⟨rfl, .inl ⟨v, rfl, rfl⟩⟩
  | failed e =>
    refine .inr ⟨rfl, .inr ⟨fun v hv => ?_, _, rfl⟩⟩
    cases hv
  | panicked m =>
    refine .inr ⟨rfl, .inr ⟨fun v hv => ?_, _, rfl⟩⟩
    cases hv
  | exited code => exact .inl ⟨code, rfl, rfl⟩

theorem Act.endsWith_of_exited {a : Act ε α} {code : UInt8} (h : a.ending = .exited code) :
    a.EndsWith (.exited code) := by
  intro code' h'
  rw [h] at h'
  cases h'
  rfl

theorem Act.endsWith_of_stays {a : Act ε α} (h : a.ending.isExit = false)
    (e : Ending Empty Empty) : a.EndsWith e := by
  intro code h'
  rw [h'] at h
  cases h

/-- A hook that ends the process is the last one. -/
theorem Act.shows_of_exited {a : Act ε α} {code : UInt8}
    (h : ((a.run module suite hook).contained : Exec φ _).ending = .exited code)
    (f : Except (Exec.Caught ε) α → Exec φ β) :
    ((a.run module suite hook).contained >>= f).Shows (eventsOfCalls module suite [a.call hook []])
      (.exited code) :=
  Exec.Shows.bind_exited ⟨a.events_run module suite hook, h⟩

/-- A hook whose ending is caught is followed by others. -/
theorem Act.shows_of_caught {a : Act ε α} {v : Except (Exec.Caught ε) α}
    (h : ((a.run module suite hook).contained : Exec φ _).ending = .finished v)
    {f : Except (Exec.Caught ε) α → Exec φ β} {e : Ending φ β}
    (hf : (f v).Shows (eventsOfCalls module suite calls) e) :
    ((a.run module suite hook).contained >>= f).Shows
      (eventsOfCalls module suite (a.call hook [] :: calls)) e := by
  rw [← List.singleton_append, eventsOfCalls_append]
  exact Exec.Shows.bind ⟨a.events_run module suite hook, h⟩ hf

/-- A hook whose ending is caught is followed by the code behind it. -/
theorem Act.shows_of_behind {a : Act ε α} {v : Except (Exec.Caught ε) α} {behind : List Bytes}
    (h : ((a.run module suite hook).contained : Exec φ _).ending = .finished v)
    {f : Except (Exec.Caught ε) α → Exec φ β} {e : Ending φ β}
    (hf : (f v).Shows (behind.map .printed) e) :
    ((a.run module suite hook).contained >>= f).Shows
      (eventsOfCalls module suite [a.call hook behind]) e := by
  rw [← List.nil_append behind, ← a.eventsOfCalls_behind]
  exact Exec.Shows.bind ⟨a.events_run module suite hook, h⟩ hf

variable (s : Suite σ) (module : String) (host : Host)

/-- **What is done about an instance whose set-up did not succeed** is not seen but by what it
prints. -/
theorem Suite.abandon_cases (left : σ) (a : Act Failure Unit) (c : Exec.Caught Failure) :
    ∃ behind : List Bytes,
      (∃ ps, (s.abandon host left a c : Exec ε _).Shows (behind.map .printed) (.finished ps)) ∨
        ∃ e : Ending Empty Empty,
          (s.abandon host left a c : Exec ε _).Shows (behind.map .printed) e.ofEmpty :=
  Exec.shows_printed
    ((Exec.isCleanable_forall_events _).abandon (s.hasDrop_printed host) a.hasBehind_printed left c)
    (Exec.isCleanable_not_isFailure.abandon (s.hasDrop_not_isFailure host)
      a.hasBehind_not_isFailure left c)

/-- **A stage** is over, or the case is left at its hook. -/
theorem Suite.runStage_cases (reason : Reason) (hook : Hook) (left : σ) (a : Act Failure Unit) :
    ∃ behind : List Bytes,
      (a.ending.isExit = false ∧ ∃ ps, (s.runStage module host reason hook left a : Exec ε _).Shows
        (eventsOfCalls module s.name [a.call hook behind]) (.finished ps)) ∨
      (a.ending ≠ .finished () ∧ ∃ e : Ending Empty Empty, a.EndsWith e ∧
        (s.runStage module host reason hook left a : Exec ε _).Shows
          (eventsOfCalls module s.name [a.call hook behind]) e.ofEmpty) := by
  unfold runStage
  rcases a.contained_cases (φ := ε) module s.name hook with
    ⟨code, ha, hends⟩ | ⟨hstays, ⟨v, ha, hv⟩ | ⟨hne, c, hv⟩⟩
  · refine ⟨[], .inr ⟨fun h => ?_, .exited code, Act.endsWith_of_exited ha,
      Act.shows_of_exited hends _⟩⟩
    rw [h] at ha
    cases ha
  · -- Nothing is done about a hook that finished.
    have hsettle : (a.settle : Exec ε Unit) = pure () := by rw [Act.settle, ha]
    refine ⟨[], .inl ⟨hstays, _, Act.shows_of_behind hv (Exec.Shows.bind_pure (a := ()) ?_ rfl)⟩⟩
    rw [hsettle, Exec.cleanedBy_of_isPanic_eq_false rfl]
    exact ⟨rfl, rfl⟩
  · -- The hook went wrong and was caught: the code behind it only prints, or ends the stage.
    obtain ⟨behind, ⟨u, hshows⟩ | ⟨e, hshows⟩⟩ := Exec.shows_printed
      ((Exec.isCleanable_forall_events _).cleanedBy
        ((Exec.isCleanable_forall_events _).settle (ε := ε) a.hasBehind_printed)
        ((s.hasDrop_printed host).drop left))
      (Exec.isCleanable_not_isFailure.cleanedBy
        (Exec.isCleanable_not_isFailure.settle a.hasBehind_not_isFailure)
        ((s.hasDrop_not_isFailure host).drop left))
    · exact ⟨behind, .inl ⟨hstays, _, Act.shows_of_behind hv (hshows.bind_pure rfl)⟩⟩
    · exact ⟨behind, .inr ⟨hne (), e, Act.endsWith_of_stays hstays e,
        Act.shows_of_behind hv hshows.bind_ofEmpty⟩⟩

variable (method : String) (body : Body σ)

/-- **The body and the tear-down**: both are called, on one instance, unless the case is left at the
body. -/
theorem Suite.runBody_cases (ready : σ) {used left : σ} {b c : Act Failure Unit}
    (hused : body host ready = (used, b)) (hleft : s.tearDown host used = (left, c)) :
    ∃ behind : List Bytes,
      (b.ending ≠ .finished () ∧ ∃ e : Ending Empty Empty, b.EndsWith e ∧
        (s.runBody module host method body ready : Exec ε _).Shows
          (eventsOfCalls module s.name [b.call (.body method) behind]) e.ofEmpty) ∨
      b.ending.isExit = false ∧ ∃ behind' : List Bytes,
        (c.ending.isExit = false ∧ ∃ ps, (s.runBody module host method body ready : Exec ε _).Shows
          (eventsOfCalls module s.name [b.call (.body method) behind, c.call .tearDown behind'])
          (.finished ps)) ∨
        ∃ e : Ending Empty Empty, c.EndsWith e ∧
          (s.runBody module host method body ready : Exec ε _).Shows
            (eventsOfCalls module s.name [b.call (.body method) behind, c.call .tearDown behind'])
            e.ofEmpty := by
  simp only [runBody, hused, hleft]
  obtain ⟨behind, ⟨hb, ofBody, hbody⟩ | ⟨hb, e, hends, hbody⟩⟩ :=
    s.runStage_cases (ε := ε) module host .failed (.body method) used b
  · refine ⟨behind, .inr ⟨hb, ?_⟩⟩
    have hcalls : ∀ behind' : List Bytes,
        eventsOfCalls module s.name [b.call (.body method) behind, c.call .tearDown behind'] =
          eventsOfCalls module s.name [b.call (.body method) behind] ++
            eventsOfCalls module s.name [c.call .tearDown behind'] :=
      fun behind' => eventsOfCalls_append _ _ [_] [_]
    simp only [hcalls]
    obtain ⟨behind', ⟨hc, ofTearDown, htear⟩ | ⟨-, e, hends, htear⟩⟩ :=
      s.runStage_cases (ε := ε) module host .tearDown .tearDown left c
    · -- What is printed when the instance is dropped is printed behind the tear-down.
      obtain ⟨last, ⟨u, hdrop⟩ | ⟨e, hdrop⟩⟩ := Exec.shows_printed (ε := ε)
        ((s.hasDrop_printed host).drop left) ((s.hasDrop_not_isFailure host).drop left)
      · refine ⟨behind' ++ last, .inl ⟨hc, ofBody ++ ofTearDown, hbody.bind ?_⟩⟩
        rw [← c.eventsOfCalls_behind]
        exact htear.bind (hdrop.bind_pure rfl)
      · refine ⟨behind' ++ last, .inr ⟨e, Act.endsWith_of_stays hc e, hbody.bind ?_⟩⟩
        rw [← c.eventsOfCalls_behind]
        exact htear.bind hdrop.bind_ofEmpty
    · exact ⟨behind', .inr ⟨e, hends, hbody.bind htear.bind_ofEmpty⟩⟩
  · exact ⟨behind, .inl ⟨hb, e, hends, hbody.bind_ofEmpty⟩⟩

/-- **A case is over, or is left on its way.** -/
theorem Suite.runStages_cases :
    (∃ calls ps, s.Lifecycle host method body calls ∧
        (s.runStages module host method body : Exec ε _).Shows
          (eventsOfCalls module s.name calls) (.finished ps)) ∨
      ∃ calls e, s.CutShort host method body calls e ∧
        (s.runStages module host method body : Exec ε _).Shows
          (eventsOfCalls module s.name calls) e.ofEmpty := by
  unfold runStages
  rcases (s.construct host).contained_cases (φ := ε) module s.name .construct with
    ⟨code, hbuilt, hends⟩ | ⟨hstays, ⟨fresh, hbuilt, hv⟩ | ⟨hne, c, hv⟩⟩
  · refine .inr ⟨_, .exited code, .construct (fun fresh h => ?_) (Act.endsWith_of_exited hbuilt),
      Act.shows_of_exited hends _⟩
    rw [h] at hbuilt
    cases hbuilt
  · rcases (s.setUp host fresh).2.contained_cases (φ := ε) module s.name .setUp with
      ⟨code, hset, hends⟩ | ⟨hstays, ⟨v, hset, hw⟩ | ⟨hfails, c, hw⟩⟩
    · refine .inr ⟨_, .exited code, .setUp hbuilt rfl (fun h => ?_) (Act.endsWith_of_exited hset),
        Act.shows_of_caught hv (Act.shows_of_exited hends _)⟩
      rw [h] at hset
      cases hset
    · obtain ⟨behind, ⟨hb, e, hends, hrest⟩ |
          ⟨hb, behind', ⟨hc, ps, hrest⟩ | ⟨e, hends, hrest⟩⟩⟩ :=
        s.runBody_cases (ε := ε) module host method body (s.setUp host fresh).1 rfl rfl
      · exact .inr ⟨_, e, .body hbuilt rfl hset rfl hb hends,
          Act.shows_of_caught hv (Act.shows_of_caught hw hrest)⟩
      · exact .inl ⟨_, ps, .complete hbuilt rfl hset rfl hb rfl hc,
          Act.shows_of_caught hv (Act.shows_of_caught hw hrest)⟩
      · exact .inr ⟨_, e, .tearDown hbuilt rfl hset rfl hb rfl hends,
          Act.shows_of_caught hv (Act.shows_of_caught hw hrest)⟩
    · obtain ⟨behind, ⟨ps, hrest⟩ | ⟨e, hrest⟩⟩ :=
        s.abandon_cases (ε := ε) host (s.setUp host fresh).1 (s.setUp host fresh).2 c
      · exact .inl ⟨_, ps, .unready hbuilt rfl (hfails ()) hstays,
          Act.shows_of_caught hv (Act.shows_of_behind hw hrest)⟩
      · exact .inr ⟨_, e, .setUp hbuilt rfl (hfails ()) (Act.endsWith_of_stays hstays e),
          Act.shows_of_caught hv (Act.shows_of_behind hw hrest)⟩
  · -- Building panicked: there is no error for it to fail with.
    obtain ⟨m, hbuilt⟩ : ∃ m, (s.construct host).ending = .panicked m := by
      cases he : (s.construct host).ending with
      | finished v => exact absurd he (hne v)
      | failed e => exact e.elim
      | panicked m => exact ⟨m, rfl⟩
      | exited code => rw [he] at hstays; cases hstays
    rcases c with e | m'
    · exact e.elim
    · obtain ⟨behind, ⟨u, hrest⟩ | ⟨e, hrest⟩⟩ := Exec.shows_printed (ε := ε)
        (s.construct host).hasBehind_printed.dropping
        (s.construct host).hasBehind_not_isFailure.dropping
      · exact .inl ⟨_, _, .unbuilt hbuilt, Act.shows_of_behind hv (hrest.bind_pure rfl)⟩
      · exact .inr ⟨_, e, .construct hne (Act.endsWith_of_stays hstays e),
          Act.shows_of_behind hv hrest.bind_ofEmpty⟩

/-- **A case** is counted, or is left on its way. -/
theorem Suite.runCase_cases (id : TestId) (q : Report) :
    (∃ calls q', s.Lifecycle host method body calls ∧
        (s.runCase module host method body id q : Exec ε _).Shows
          (eventsOfCalls module s.name calls) (.finished q')) ∨
      ∃ calls e, s.CutShort host method body calls e ∧
        (s.runCase module host method body id q : Exec ε _).Shows
          (eventsOfCalls module s.name calls) e.ofEmpty := by
  unfold runCase Exec.timed
  rcases s.runStages_cases (ε := ε) module host method body with
    ⟨calls, ps, hcalls, hshows⟩ | ⟨calls, e, hcalls, hshows⟩
  · refine .inl ⟨calls, _, hcalls, Exec.Shows.bind_pure
      (a := (ps, (s.runStages module host method body : Exec ε _).elapsed)) ?_ rfl⟩
    exact hshows.bind_pure rfl
  · exact .inr ⟨calls, e, hcalls, hshows.bind_ofEmpty.bind_ofEmpty⟩

end Stages

end SuitePool
