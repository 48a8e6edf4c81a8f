import Mathlib.Data.List.Basic
import Mathlib.Data.List.Forall2
import Mathlib.Tactic.Common
import SuitePool.Proofs.Cases.Bound
import SuitePool.Proofs.Cases.Discovered
import SuitePool.Proofs.Cases.Lifecycle
import SuitePool.Proofs.Forked.Discovery

/-!
# What discovery inspects

Discovery goes through the items that were registered for the module of a file.  Of each suite that
is not abstract it asks every getter once, and then warns of the members whose names announce tests
that cannot be called.  Nothing else is seen, and the ids that are listed are those of the others.
Files are discovered one after the other.  The first one that does not come to ids, because it names
no registered module or because a getter ends the process, ends the discovery: nothing is inspected
after it.

## Main definitions

* `Exec.StopsAs`: pieces of code that stop alike, without a value.
* `Member.asked`, `warningsOfState`: the calls and the warnings of a member.
* `Item.seen`: what is seen of an item of a module.
* `IsCutShort`: what is seen of items if a getter ends the process.

## Main results

* `Exec.shows_mapM`, `Exec.shows_mapM_stops`: what is seen of a list of pieces of code.
* `Registry.discoverModule_cases`: what is seen of a module, and what it comes to.
* `Registry.discoverFiles_inspects`: the same for files.
-/

namespace SuitePool

open Text

variable {σ ε φ α β : Type}

/-! ## Lists of pieces -/

/-- The first member of a list of which something is not so. -/
theorem exists_first_not {p : α → Prop} {as : List α} (h : ¬ ∀ a ∈ as, p a) :
    ∃ before a after, as = before ++ a :: after ∧ (∀ b ∈ before, p b) ∧ ¬ p a := by
  induction as with
  | nil => exact absurd (by simp) h
  | cons a as ih =>
    by_cases ha : p a
    · rw [List.forall_mem_cons, and_iff_right ha] at h
      obtain ⟨before, a', after, rfl, hbefore, ha'⟩ := ih h
      exact ⟨a :: before, a', after, rfl, List.forall_mem_cons.2 ⟨ha, hbefore⟩, ha'⟩
    · exact ⟨[], a, as, rfl, by simp, ha⟩

namespace Exec

/-- **Do two pieces of code stop alike**, without a value? -/
def StopsAs (e : Ending ε α) (e' : Ending ε β) : Prop := e.Alike (fun _ _ => False) e'

theorem Shows.bind_stops {x : Exec ε α} {f : α → Exec ε β} {es : List Event} {e : Ending ε α}
    {e' : Ending ε β} (h : x.Shows es e) (he : StopsAs e e') : (x >>= f).Shows es e' := by
  obtain ⟨events, elapsed, ending⟩ := x
  obtain ⟨rfl, rfl⟩ := h
  cases he with
  | finished h => exact h.elim
  | failed | panicked | exited => exact ⟨rfl, rfl⟩

theorem StopsAs.stopped {e : Ending ε α} {e' : Ending ε β} (h : StopsAs e e') : StopsAs e' e' := by
  cases h with
  | finished h => exact h.elim
  | failed e => exact .failed e
  | panicked m => exact .panicked m
  | exited c => exact .exited c

variable {f : α → Exec ε β}

/-- **Pieces that all finish** are seen one after the other. -/
theorem shows_mapM {as : List α} {bs : List β}
    (h : List.Forall₂ (fun a b => (f a).ending = .finished b) as bs) :
    (as.mapM f).Shows (as.flatMap fun a => (f a).events) (.finished bs) := by
  induction h with
  | nil => exact ⟨rfl, rfl⟩
  | @cons a b as bs hb _ ih =>
    rw [List.mapM_cons, List.flatMap_cons]
    have hfirst : (f a).Shows (f a).events (.finished b) := ⟨rfl, hb⟩
    exact hfirst.bind (ih.bind_pure rfl)

/-- **The first piece that does not finish** is the last one that is seen. -/
theorem shows_mapM_stops {before : List α} {a : α} (after : List α) {e : Ending ε (List β)}
    (hb : ∀ b ∈ before, ∃ c, (f b).ending = .finished c) (he : StopsAs (f a).ending e) :
    ((before ++ a :: after).mapM f).Shows
      ((before.flatMap fun b => (f b).events) ++ (f a).events) e := by
  induction before with
  | nil =>
    rw [List.nil_append, List.mapM_cons]
    exact Shows.bind_stops ⟨rfl, rfl⟩ he
  | cons c before ih =>
    rw [List.forall_mem_cons] at hb
    obtain ⟨⟨b, hc⟩, hb⟩ := hb
    rw [List.cons_append, List.mapM_cons, List.flatMap_cons, List.append_assoc]
    have hfirst : (f c).Shows (f c).events (.finished b) := ⟨rfl, hc⟩
    exact hfirst.bind ((ih hb).bind_stops he.stopped)

end Exec

/-! ## Errors that are written -/

/-- What is printed, if anything. -/
def Aftermath.pieces (a : Aftermath) : List Bytes := if a.printed = [] then [] else [a.printed]

theorem Aftermath.shows_run {a : Aftermath} {e : Ending ε Unit}
    (h : (a.run : Exec ε Unit).ending = e) :
    (a.run : Exec ε Unit).Shows (a.pieces.map .printed) e := by
  refine ⟨?_, h⟩
  simp only [run, Exec.mapError, printedEvents, pieces]
  split_ifs <;> rfl

namespace Act

variable {a : Act φ α}

/-- **What is printed behind an act** whose error is written and dropped, and nothing panics. -/
def behind (a : Act φ α) : List Bytes :=
  match a.ending with
  | .failed _ => a.writing.pieces ++ a.dropping.pieces
  | _ => []

/-- **The error of an act is written and dropped**, if the code that does so finishes. -/
theorem shows_writeError (h : a.IsClean) :
    (a.writeError : Exec ε Unit).Shows ((a.writing.pieces ++ a.dropping.pieces).map .printed)
      (.finished ()) := by
  have hw : (a.writing.run : Exec ε Unit).ending = .finished () :=
    Aftermath.finished_run_iff.2 h.writing
  rw [writeError, Exec.cleanedBy_of_isPanic_eq_false (by rw [hw]; rfl), List.map_append]
  have hd : (a.dropping.run : Exec ε Unit).ending = .finished () :=
    Aftermath.finished_run_iff.2 h.dropping
  exact (Aftermath.shows_run hw).bind (Aftermath.shows_run hd)

/-- **Does asking a getter end the process?**  The getter does, or the code that writes its error
and drops it; with what this code printed. -/
inductive EndsWhenAsked (a : Act φ α) : List Bytes → UInt8 → Prop where
  /-- The getter does. -/
  | asked {code : UInt8} (hends : a.ending = .exited code) : EndsWhenAsked a [] code
  /-- Writing its error does. -/
  | writing {f : φ} {code : UInt8} (hf : a.ending = .failed f)
      (hends : a.writing.ending = .exited code) : EndsWhenAsked a a.writing.pieces code
  /-- Dropping its error does. -/
  | dropping {f : φ} {code : UInt8} (hf : a.ending = .failed f)
      (hwritten : a.writing.ending = .finished ()) (hends : a.dropping.ending = .exited code) :
      EndsWhenAsked a (a.writing.pieces ++ a.dropping.pieces) code

/-- Asking a getter that does not panic ends the process, if it says nothing. -/
theorem exists_endsWhenAsked (hp : a.ending.isPanic = false) (hcalm : a.IsCalm)
    (hn : ¬ ((∃ b, a.ending = .finished b) ∨ (∃ f, a.ending = .failed f) ∧ a.IsClean)) :
    ∃ behind code, a.EndsWhenAsked behind code := by
  cases ha : a.ending with
  | finished b => exact absurd (.inl ⟨b, ha⟩) hn
  | panicked message => rw [ha] at hp; cases hp
  | exited code => exact ⟨_, code, .asked ha⟩
  | failed f =>
    have hunclean : ¬ a.IsClean := fun hc => hn (.inr ⟨⟨f, ha⟩, hc⟩)
    have hwriting := hcalm.writing
    have hdropping := hcalm.dropping
    -- The error is written, or this ends the process; and so it is when the error is dropped.
    cases hw : a.writing.ending with
    | failed e => exact e.elim
    | panicked message => rw [hw] at hwriting; cases hwriting
    | exited code => exact ⟨_, code, .writing ha hw⟩
    | finished u =>
      cases hd : a.dropping.ending with
      | failed e => exact e.elim
      | panicked message => rw [hd] at hdropping; cases hdropping
      | exited code => exact ⟨_, code, .dropping ha hw hd⟩
      | finished v => exact absurd ⟨hw, hd⟩ hunclean

/-- A getter that ends the process when it is asked says nothing. -/
theorem EndsWhenAsked.not_isInspectable {behind : List Bytes} {code : UInt8}
    (h : a.EndsWhenAsked behind code) :
    ¬ ((∃ b, a.ending = .finished b) ∨ (∃ f, a.ending = .failed f) ∧ a.IsClean) := by
  rintro (⟨b, hb⟩ | ⟨⟨f, hf⟩, hclean⟩)
  · cases h with
    | asked hends => cases hb.symm.trans hends
    | writing hf => cases hb.symm.trans hf
    | dropping hf => cases hb.symm.trans hf
  · cases h with
    | asked hends => cases hf.symm.trans hends
    | writing _ hends => cases hclean.writing.symm.trans hends
    | dropping _ _ hends => cases hclean.dropping.symm.trans hends

end Act

/-! ## Members -/

section Members

variable {h : Host} {module suite : String}

/-- **The calls of a member that is inspected**: a getter is asked once, and what is printed behind
it is printed while its error is written and dropped. -/
def Member.asked (h : Host) : String × Member σ → List Call
  | (name, .getter resolve) => [(resolve h).call (.resolve name) (resolve h).behind]
  | _ => []

/-- **The warnings of a member that was inspected**: one if its name announces a test, but it cannot
be called. -/
def warningsOfState (module suite : String) (m : String × MemberState) : List Warning :=
  if announcesTest m.1 then
    match m.2 with
    | .callable => []
    | .notCallable => [⟨module, suite, m.1, none⟩]
    | .unreadable reason => [⟨module, suite, m.1, some reason⟩]
  else []

/-- **The inspection of a member** that says anything. -/
theorem shows_inspectMember {m : String × Member σ} (hm : m.2.IsInspectable h)
    (module suite : String) :
    (inspectMember module suite h m : Exec ε _).Shows
      (eventsOfCalls module suite (Member.asked h m)) (.finished (m.1, m.2.state h)) := by
  refine ⟨?_, finished_inspectMember_iff.2 ⟨hm, rfl⟩⟩
  obtain ⟨name, member⟩ := m
  cases member with
  | method body => rfl
  | value => rfl
  | getter resolve =>
    have hasked {r : Except Failure (Body σ)}
        (hf : (((resolve h).run module suite (.resolve name)).attempt : Exec ε _).ending =
          .finished r) :
        (((resolve h).run module suite (.resolve name)).attempt : Exec ε _).Shows
          (eventsOfCalls module suite [(resolve h).call (.resolve name) []]) (.finished r) :=
      ⟨(resolve h).events_run module suite _, hf⟩
    rw [Member.asked, Act.behind]
    obtain ⟨b, hb⟩ | ⟨⟨f, hf⟩, hclean⟩ := hm
    · have hfound := hasked (r := .ok b) (by simp only [Exec.attempt, Act.run, hb])
      have hshows : (inspectMember module suite h (name, .getter resolve) : Exec ε _).Shows _
          (.finished (name, .callable)) := hfound.bind_pure rfl
      rw [hb]
      exact hshows.events
    · have hfound := hasked (r := .error f) (by simp only [Exec.attempt, Act.run, hf])
      have hshows : (inspectMember module suite h (name, .getter resolve) : Exec ε _).Shows _
          (.finished (name, .unreadable f.text)) :=
        hfound.bind ((Act.shows_writeError hclean).bind_pure rfl)
      rw [hf]
      exact hshows.events.trans (Act.eventsOfCalls_behind ..)

/-- **The inspection of a getter** that ends the process when it is asked. -/
theorem shows_inspectMember_endsWhenAsked {resolve : Host → Act Failure (Body σ)}
    {behind : List Bytes} {code : UInt8} (hends : (resolve h).EndsWhenAsked behind code)
    (module suite name : String) :
    (inspectMember module suite h (name, .getter resolve) : Exec ε _).Shows
      (eventsOfCalls module suite [(resolve h).call (.resolve name) behind]) (.exited code) := by
  have hevents := (resolve h).events_run module suite (.resolve name)
  -- What is seen once the getter has failed.
  have hfailed {f : Failure} (hf : (resolve h).ending = .failed f)
      (hwrite : ((resolve h).writeError : Exec ε Unit).Shows (behind.map .printed) (.exited code)) :
      (inspectMember module suite h (name, .getter resolve) : Exec ε _).Shows
        (eventsOfCalls module suite [(resolve h).call (.resolve name) behind]) (.exited code) := by
    have hfound : (((resolve h).run module suite (.resolve name)).attempt : Exec ε _).Shows _
        (.finished (.error f)) := ⟨hevents, by simp only [Exec.attempt, Act.run, hf]⟩
    rw [← List.nil_append behind, ← Act.eventsOfCalls_behind]
    exact hfound.bind hwrite.bind_exited
  cases hends with
  | asked hends =>
    refine Exec.Shows.bind_exited ⟨hevents, ?_⟩
    simp only [Exec.attempt, Act.run, hends]
  | writing hf hends =>
    have hrun : ((resolve h).writing.run : Exec ε Unit).ending = .exited code := by
      simp only [Aftermath.run, Exec.mapError, hends]
    refine hfailed hf ?_
    rw [Act.writeError, Exec.cleanedBy_of_isPanic_eq_false (by rw [hrun]; rfl)]
    exact (Aftermath.shows_run hrun).bind_exited
  | dropping hf hwritten hends =>
    have hrun : ((resolve h).writing.run : Exec ε Unit).ending = .finished () :=
      Aftermath.finished_run_iff.2 hwritten
    refine hfailed hf ?_
    rw [Act.writeError, Exec.cleanedBy_of_isPanic_eq_false (by rw [hrun]; rfl), List.map_append]
    exact (Aftermath.shows_run hrun).bind
      (Aftermath.shows_run (by simp only [Aftermath.run, Exec.mapError, hends]))

theorem events_idsOfMember (module suite : String) (m : String × MemberState) :
    (idsOfMember module suite m : Exec ε _).events =
      (warningsOfState module suite m).map .warned := by
  unfold idsOfMember warningsOfState
  cases announcesTest m.1 with
  | false => rfl
  | true => cases m.2 <;> rfl

theorem eventsOfCalls_flatMap (module suite : String) (calls : α → List Call) (as : List α) :
    eventsOfCalls module suite (as.flatMap calls) =
      as.flatMap fun a => eventsOfCalls module suite (calls a) :=
  List.flatMap_assoc

/-- **The inspection of members** asks each getter once, if all say anything. -/
theorem shows_inspect {s : Suite σ} (hm : ∀ m ∈ s.members, m.2.IsInspectable h) :
    (s.inspect module h : Exec ε _).Shows
      (eventsOfCalls module s.name (s.members.flatMap (Member.asked h)))
      (.finished (s.members.map fun m => (m.1, m.2.state h))) := by
  have hall : List.Forall₂ (fun m found =>
      (inspectMember module s.name h m : Exec ε _).ending = .finished found) s.members
      (s.members.map fun m => (m.1, m.2.state h)) := by
    rw [List.forall₂_map_right_iff, List.forall₂_same]
    exact fun m hmem => (shows_inspectMember (hm m hmem) module s.name).ending
  rw [Suite.inspect, eventsOfCalls_flatMap,
    ← List.flatMap_congr fun m hmem =>
      (shows_inspectMember (ε := ε) (hm m hmem) module s.name).events]
  exact Exec.shows_mapM hall

/-- The ids of members that were inspected come with their warnings. -/
theorem shows_mapM_idsOfMember (module suite : String) (states : List (String × MemberState)) :
    (states.mapM (idsOfMember module suite) : Exec ε _).Shows
      ((states.flatMap (warningsOfState module suite)).map .warned)
      (.finished (states.map (idsOfState module suite))) := by
  have hall : List.Forall₂ (fun m ids =>
      (idsOfMember module suite m : Exec ε _).ending = .finished ids) states
      (states.map (idsOfState module suite)) := by
    rw [List.forall₂_map_right_iff, List.forall₂_same]
    exact fun m _ => ending_idsOfMember module suite m
  rw [List.map_flatMap]
  simpa only [events_idsOfMember] using Exec.shows_mapM hall

end Members

/-! ## Items -/

section Items

variable {h : Host} {module : String}

/-- **What is seen of an item** that is inspected: of a suite that is not abstract the calls of its
getters, and then the warnings. -/
def Item.seen (module : String) (h : Host) : Item σ → List Event
  | .suite s =>
    if s.isAbstract then []
    else
      eventsOfCalls module s.name (s.members.flatMap (Member.asked h)) ++
        (s.members.flatMap fun m => warningsOfState module s.name (m.1, m.2.state h)).map .warned
  | _ => []

/-- An item whose inspections all say something comes to its ids. -/
theorem shows_idsOfItem {item : Item σ} (hi : item.IsInspectable h) :
    (idsOfItem module h item : Exec ε _).Shows (item.seen module h)
      (.finished ((item.cases module h).map TestCase.id)) := by
  refine ⟨?_, Registry.finished_idsOfItem_iff.2 ⟨hi, rfl⟩⟩
  cases item with
  | plainClass n => rfl
  | value n => rfl
  | suite s =>
    rw [idsOfItem, Item.seen]
    cases ha : s.isAbstract with
    | true => rfl
    | false =>
      rw [if_neg Bool.false_ne_true, if_neg Bool.false_ne_true]
      have hstates : (s.inspect module h : Exec ε _).Shows _ _ := shows_inspect (hi ha)
      have hids := shows_mapM_idsOfMember (ε := ε) module s.name
        (s.members.map fun m => (m.1, m.2.state h))
      rw [List.flatMap_map] at hids
      exact (hstates.bind (hids.bind_pure (f := fun ids => pure ids.flatten) rfl)).events

/-- **Where asking the getters of a suite ends the process**, with the calls up to then. -/
inductive Suite.EndsWhenAsked (s : Suite σ) (h : Host) : List Call → UInt8 → Prop where
  /-- The getters before it return. -/
  | mk {front back : List (String × Member σ)} {name : String}
      {resolve : Host → Act Failure (Body σ)} {behind : List Bytes} {code : UInt8}
      (hc : s.isAbstract = false) (hm : s.members = front ++ (name, .getter resolve) :: back)
      (hfront : ∀ m ∈ front, m.2.IsInspectable h)
      (hends : (resolve h).EndsWhenAsked behind code) :
      EndsWhenAsked s h
        (front.flatMap (Member.asked h) ++ [(resolve h).call (.resolve name) behind]) code

/-- **Where the inspection of items is cut short**, with what is seen up to then. -/
inductive IsCutShort (module : String) (h : Host) : List (Item σ) → List Event → UInt8 → Prop where
  /-- The items before it are inspected as a whole. -/
  | mk {before after : List (Item σ)} {s : Suite σ} {calls : List Call} {code : UInt8}
      (hbefore : ∀ item ∈ before, item.IsInspectable h) (hs : s.EndsWhenAsked h calls code) :
      IsCutShort module h (before ++ .suite s :: after)
        (before.flatMap (Item.seen module h) ++ eventsOfCalls module s.name calls) code

/-- An inspection is not both whole and cut short. -/
theorem IsCutShort.not_forall_isInspectable {items : List (Item σ)} {es : List Event} {code : UInt8}
    (hcut : IsCutShort module h items es code) : ¬ ∀ item ∈ items, item.IsInspectable h := by
  obtain ⟨-, ⟨hc, hm, -, hends⟩⟩ := hcut
  intro hall
  have horderly := hall (.suite _) (List.mem_append_right _ (List.mem_cons_self ..)) hc
  rw [hm] at horderly
  exact hends.not_isInspectable (horderly _ (List.mem_append_right _ (List.mem_cons_self ..)))

/-- An inspection that says nothing ends the process, if it does not panic. -/
theorem Member.exists_endsWhenAsked {m : Member σ} (hn : ¬ m.IsInspectable h)
    (hp : ∀ resolve, m = .getter resolve →
      (resolve h).ending.isPanic = false ∧ (resolve h).IsCalm) :
    ∃ resolve behind code, m = .getter resolve ∧ (resolve h).EndsWhenAsked behind code := by
  cases m with
  | method body => exact absurd trivial hn
  | value => exact absurd trivial hn
  | getter resolve =>
    obtain ⟨hsteady, hcalm⟩ := hp resolve rfl
    obtain ⟨behind, code, hends⟩ := Act.exists_endsWhenAsked hsteady hcalm hn
    exact ⟨resolve, behind, code, rfl, hends⟩

theorem Suite.exists_endsWhenAsked {s : Suite σ}
    (hp : ∀ name resolve, (name, .getter resolve) ∈ s.members →
      (resolve h).ending.isPanic = false ∧ (resolve h).IsCalm)
    (hc : s.isAbstract = false) (hn : ¬ ∀ m ∈ s.members, m.2.IsInspectable h) (module : String) :
    ∃ calls code, s.EndsWhenAsked h calls code ∧
      (s.inspect module h : Exec ε _).Shows (eventsOfCalls module s.name calls)
        (.exited code) := by
  obtain ⟨front, ⟨name, member⟩, back, hm, hfront, hnot⟩ := exists_first_not hn
  obtain ⟨resolve, behind, code, rfl, hends⟩ := Member.exists_endsWhenAsked hnot
    fun resolve hmember =>
      hp name resolve (by rw [hm, ← hmember]; exact List.mem_append_right _ (List.mem_cons_self ..))
  refine ⟨_, code, .mk hc hm hfront hends, ?_⟩
  have hlast := shows_inspectMember_endsWhenAsked (ε := ε) hends module s.name name
  have hstops : Exec.StopsAs
      (inspectMember module s.name h (name, .getter resolve) : Exec ε _).ending
      (.exited code : Ending ε (List (String × MemberState))) := by
    rw [hlast.ending]
    exact .exited code
  have hshows := Exec.shows_mapM_stops (f := inspectMember module s.name h) back
    (fun m hmem => ⟨_, (shows_inspectMember (hfront m hmem) module s.name).ending⟩) hstops
  rw [hlast.events, List.flatMap_congr fun m hmem =>
    (shows_inspectMember (ε := ε) (hfront m hmem) module s.name).events] at hshows
  rw [Suite.inspect, hm, eventsOfCalls_append, eventsOfCalls_flatMap]
  exact hshows

/-- An item whose inspections do not all say something is a suite a getter of which ends the
process. -/
theorem Item.exists_endsWhenAsked {item : Item σ}
    (hp : ∀ s, item = .suite s → ∀ name resolve, (name, .getter resolve) ∈ s.members →
      (resolve h).ending.isPanic = false ∧ (resolve h).IsCalm)
    (hn : ¬ item.IsInspectable h) (module : String) :
    ∃ s calls code, item = .suite s ∧ s.EndsWhenAsked h calls code ∧
      (idsOfItem module h item : Exec ε _).Shows (eventsOfCalls module s.name calls)
        (.exited code) := by
  cases item with
  | plainClass n => exact absurd trivial hn
  | value n => exact absurd trivial hn
  | suite s =>
    obtain ⟨hc, hmembers⟩ := Classical.not_imp.1 hn
    obtain ⟨calls, code, hends, hshows⟩ :=
      Suite.exists_endsWhenAsked (ε := ε) (hp s rfl) hc hmembers module
    refine ⟨s, calls, code, rfl, hends, ?_⟩
    rw [idsOfItem, hc, if_neg Bool.false_ne_true]
    exact hshows.bind_exited

end Items

/-! ## Modules -/

namespace Registry

variable {r : Registry σ} {h : Host}

/-- **What is seen of a module, and what it comes to**: to its ids, unless a getter ends the
process. -/
theorem discoverModule_cases (hr : r.HasSteadyGetters h) {module : String} {m : Module σ}
    (hm : r.loadModule module = .ok m) :
    (∀ item ∈ m.items, item.IsInspectable h) ∧
        (r.discoverModule h module).Shows (m.items.flatMap (Item.seen module h))
          (.finished (idsOfItems module h m.items)) ∨
      ∃ es code, IsCutShort module h m.items es code ∧
        (r.discoverModule h module).Shows es (.exited code) := by
  rw [discoverModule, hm, Exec.ofExcept, Exec.pure_bind]
  by_cases hall : ∀ item ∈ m.items, item.IsInspectable h
  · refine .inl ⟨hall, ?_⟩
    have hids : List.Forall₂ (fun item ids =>
        (idsOfItem module h item : Exec Error _).ending = .finished ids) m.items
        (m.items.map fun item => (item.cases module h).map TestCase.id) := by
      rw [List.forall₂_map_right_iff, List.forall₂_same]
      exact fun item hi => (shows_idsOfItem (hall item hi)).ending
    have hseen : (m.items.flatMap fun item => (idsOfItem module h item : Exec Error _).events) =
        m.items.flatMap (Item.seen module h) :=
      List.flatMap_congr fun item hi => (shows_idsOfItem (hall item hi)).events
    rw [← hseen, idsOfItems, List.flatMap_def]
    exact (Exec.shows_mapM hids).bind_pure rfl
  · right
    obtain ⟨before, item, after, hitems, hbefore, hnot⟩ := exists_first_not hall
    have hmem : item ∈ m.items := hitems ▸ List.mem_append_right _ (List.mem_cons_self ..)
    obtain ⟨s, calls, code, rfl, hends, hshows⟩ := Item.exists_endsWhenAsked (ε := Error)
      (fun s hs => hr s ⟨m, mem_of_loadModule hm, hs ▸ hmem⟩) hnot module
    have hcut : IsCutShort module h (before ++ .suite s :: after) _ code := .mk hbefore hends
    refine ⟨_, code, hitems ▸ hcut, ?_⟩
    have hstops : Exec.StopsAs (idsOfItem module h (.suite s) : Exec Error _).ending
        (.exited code : Ending Error (List (List TestId))) := by
      rw [hshows.ending]
      exact .exited code
    have hall := Exec.shows_mapM_stops (f := idsOfItem module h) after
      (fun item hi => ⟨_, (shows_idsOfItem (hbefore item hi)).ending⟩) hstops
    rw [hshows.events, List.flatMap_congr fun item hi =>
      (shows_idsOfItem (hbefore item hi)).events, ← hitems] at hall
    exact hall.bind_exited

theorem loadModule_build_eq_error_iff (root : Path) (calls : List (String × List (Item σ)))
    (name : String) :
    (build root calls).loadModule name = .error (.moduleNotFound name) ↔
      name ∉ calls.map (·.1) := by
  rw [← isSome_find?_build root, loadModule]
  cases (build root calls).modules.find? fun m => m.name == name <;> simp

/-! ## Files -/

section Files

variable {t : FileTree} {modulePath : List Path}

theorem discoverFile_eq {f : Path} {module : String}
    (hf : moduleOfFile t modulePath f = .ok module) :
    r.discoverFile t h modulePath f = r.discoverModule h module := by
  rw [discoverFile, hf, Exec.ofExcept, Exec.pure_bind]

/-- **Files are discovered one after the other**, up to the first one that does not come to ids. -/
theorem discoverFiles_cases (hr : r.HasSteadyGetters h) (files : List Path) :
    (∃ found, List.Forall₂ (fun f ids => (r.discoverFile t h modulePath f).ending = .finished ids)
          files found ∧
        (r.discoverFiles t h modulePath files).Shows
          (files.flatMap fun f => (r.discoverFile t h modulePath f).events)
          (.finished found.flatten)) ∨
      ∃ before f after, files = before ++ f :: after ∧
        (∀ b ∈ before, ∃ ids, (r.discoverFile t h modulePath b).ending = .finished ids) ∧
        ((∃ e, (r.discoverFile t h modulePath f).ending = .failed e ∧
            (r.discoverFiles t h modulePath files).Shows
              ((before.flatMap fun b => (r.discoverFile t h modulePath b).events) ++
                (r.discoverFile t h modulePath f).events) (.failed e)) ∨
          ∃ code, (r.discoverFile t h modulePath f).ending = .exited code ∧
            (r.discoverFiles t h modulePath files).Shows
              ((before.flatMap fun b => (r.discoverFile t h modulePath b).events) ++
                (r.discoverFile t h modulePath f).events) (.exited code)) := by
  by_cases hall : ∀ f ∈ files, ∃ ids, (r.discoverFile t h modulePath f).ending = .finished ids
  · obtain ⟨found, hfound⟩ := exists_forall₂_iff.2 hall
    exact .inl ⟨found, hfound, (Exec.shows_mapM hfound).bind_pure rfl⟩
  · right
    obtain ⟨before, f, after, rfl, hbefore, hnot⟩ := exists_first_not hall
    refine ⟨before, f, after, rfl, hbefore, ?_⟩
    -- Getters do not panic, so this file fails or ends the process.
    have hsteady := isPanic_discoverFile hr t modulePath f
    cases he : (r.discoverFile t h modulePath f).ending with
    | finished ids => exact absurd ⟨ids, he⟩ hnot
    | panicked message =>
      rw [he] at hsteady
      cases hsteady
    | failed e =>
      exact .inl ⟨e, rfl,
        (Exec.shows_mapM_stops after hbefore (he ▸ .failed e)).bind_failed⟩
    | exited code =>
      exact .inr ⟨code, rfl,
        (Exec.shows_mapM_stops after hbefore (he ▸ .exited code)).bind_exited⟩

/-- **What discovery inspects, and what it comes to.**  Files are discovered one after the other, up
to the first one that does not come to ids, and the discovery ends as this one does.  A file of a
module that is not registered fails, and nothing is inspected.  Of a module that is registered all
items are inspected, those that were added later at the end: each getter of a suite that is not
abstract is asked once, there is one warning for each member that announces a test and cannot be
called, and the others that announce tests are listed.  Only a getter that ends the process cuts
this short. -/
theorem discoverFiles_inspects {root : Path} {calls : List (String × List (Item σ))}
    (hb : r = .build root calls) (hr : r.HasSteadyGetters h) (t : FileTree)
    (modulePath : List Path) :
    (∀ files,
      ((∃ ids, (r.discoverFiles t h modulePath files).ending = .finished ids) ↔
        ∀ f ∈ files, ∃ ids, (r.discoverFile t h modulePath f).ending = .finished ids) ∧
      ((∃ found, List.Forall₂ (fun f ids =>
            (r.discoverFile t h modulePath f).ending = .finished ids) files found ∧
          (r.discoverFiles t h modulePath files).Shows
            (files.flatMap fun f => (r.discoverFile t h modulePath f).events)
            (.finished found.flatten)) ∨
        ∃ before f after, files = before ++ f :: after ∧
          (∀ b ∈ before, ∃ ids, (r.discoverFile t h modulePath b).ending = .finished ids) ∧
          ((∃ e, (r.discoverFile t h modulePath f).ending = .failed e ∧
              (r.discoverFiles t h modulePath files).Shows
                ((before.flatMap fun b => (r.discoverFile t h modulePath b).events) ++
                  (r.discoverFile t h modulePath f).events) (.failed e)) ∨
            ∃ code, (r.discoverFile t h modulePath f).ending = .exited code ∧
              (r.discoverFiles t h modulePath files).Shows
                ((before.flatMap fun b => (r.discoverFile t h modulePath b).events) ++
                  (r.discoverFile t h modulePath f).events) (.exited code)))) ∧
      ∀ f module, moduleOfFile t modulePath f = .ok module →
        ((r.discoverFile t h modulePath f).ending = .failed (.moduleNotFound module) ↔
          module ∉ calls.map (·.1)) ∧
        (module ∉ calls.map (·.1) → (r.discoverFile t h modulePath f).events = []) ∧
        (module ∈ calls.map (·.1) →
          (∀ item ∈ registered calls module, item.IsInspectable h) ∧
              (r.discoverFile t h modulePath f).Shows
                ((registered calls module).flatMap (Item.seen module h))
                (.finished (idsOfItems module h (registered calls module))) ∨
            ∃ es code, IsCutShort module h (registered calls module) es code ∧
              (r.discoverFile t h modulePath f).Shows es (.exited code)) := by
  refine ⟨fun files => ⟨?ok, discoverFiles_cases hr files⟩, fun f module hf => ?_⟩
  case ok =>
    constructor
    · rintro ⟨ids, hids⟩
      obtain ⟨found, hfound, -⟩ := Exec.finished_of_bind hids
      exact exists_of_mem_forall₂ (Exec.finished_of_mapM hfound)
    · intro hall
      obtain ⟨found, hfound⟩ := exists_forall₂_iff.2 hall
      exact ⟨_, Exec.ending_bind_of_finished (Exec.shows_mapM hfound).ending _⟩
  rw [discoverFile_eq hf]
  subst hb
  by_cases hmem : module ∈ calls.map (·.1)
  · have hload := (loadModule_build_eq_ok_iff root calls module).2 ⟨hmem, rfl⟩
    have hcases := discoverModule_cases hr hload
    refine ⟨⟨fun hfailed => ?_, fun hn => absurd hmem hn⟩, fun hn => absurd hmem hn,
      fun _ => hcases⟩
    -- A module that is there never fails.
    rcases hcases with ⟨-, hshows⟩ | ⟨es, code, -, hshows⟩
    · exact nomatch hshows.ending.symm.trans hfailed
    · exact nomatch hshows.ending.symm.trans hfailed
  · have hload := (loadModule_build_eq_error_iff root calls module).2 hmem
    have hshows : ((build root calls).discoverModule h module).Shows []
        (.failed (.moduleNotFound module)) := by
      rw [discoverModule, hload]
      exact Exec.Shows.bind_failed ⟨rfl, rfl⟩
    exact ⟨⟨fun _ => hmem, fun _ => hshows.ending⟩, fun _ => hshows.events,
      fun hin => absurd hin hmem⟩

end Files

end Registry

/-! ## A module that is inspected -/

/-- A suite with a test, a value and a getter that are no tests, and a helper that is asked for. -/
def askedSuite (helper : Act Failure (Body Unit)) : Suite Unit where
  name := "Solo"
  isAbstract := false
  construct := fun _ => .ofEnding (.finished ())
  setUp := fun _ _ => ((), .ofEnding (.finished ()))
  tearDown := fun _ _ => ((), .ofEnding (.finished ()))
  members :=
    [("test_one", .method fun _ _ => ((), .ofEnding (.finished ()))), ("test_value", .value),
      ("helper", .getter fun _ => helper),
      ("test_broken", .getter fun _ => .ofEnding (.failed ["no"]))]

/-- The module of this suite; it was extended by a base, whose getters are not asked. -/
def askedCalls (helper : Act Failure (Body Unit)) : List (String × List (Item Unit)) :=
  [("m", [.plainClass "Fixture", .suite (askedSuite helper)]),
    ("m", [.suite { askedSuite helper with name := "Base", isAbstract := true }])]

/-- The registry of this module. -/
def askedRegistry (helper : Act Failure (Body Unit)) : Registry Unit :=
  .build soloDirectory (askedCalls helper)

theorem members_askedRegistry {helper : Act Failure (Body Unit)} {s : Suite Unit}
    (hs : (askedRegistry helper).HasSuite s) : s.members = (askedSuite helper).members := by
  obtain ⟨m, hm, hs⟩ := hs
  rw [List.mem_singleton.1 hm] at hs
  simp only [List.cons_append, List.nil_append, List.mem_cons, reduceCtorEq, Item.suite.injEq,
    List.not_mem_nil, or_false, false_or] at hs
  rcases hs with rfl | rfl <;> rfl

theorem hasSteadyGetters_askedRegistry {helper : Act Failure (Body Unit)}
    (hp : helper.ending.isPanic = false) (hcalm : helper.IsCalm) (h : Host) :
    (askedRegistry helper).HasSteadyGetters h := by
  intro s hs name resolve hmember
  rw [members_askedRegistry hs] at hmember
  simp only [askedSuite, List.mem_cons, Prod.mk.injEq, reduceCtorEq, and_false, false_or,
    Member.getter.injEq, List.not_mem_nil, or_false] at hmember
  rcases hmember with ⟨-, rfl⟩ | ⟨-, rfl⟩
  · exact ⟨hp, hcalm⟩
  · exact ⟨rfl, rfl, rfl⟩

theorem isInspectable_askedCalls {helper : Act Failure (Body Unit)} (h : Host)
    (ho : (∃ f, helper.ending = .failed f) ∧ helper.IsClean) :
    ∀ item ∈ registered (askedCalls helper) "m", item.IsInspectable h := by
  have hmembers : ∀ m ∈ (askedSuite helper).members, m.2.IsInspectable h := by
    simp only [askedSuite, List.forall_mem_cons]
    exact ⟨trivial, trivial, .inr ho, .inr ⟨⟨_, rfl⟩, rfl, rfl⟩, List.forall_mem_nil _⟩
  change ∀ item ∈ [Item.plainClass "Fixture", .suite (askedSuite helper),
    .suite { askedSuite helper with name := "Base", isAbstract := true }], item.IsInspectable h
  simp only [List.forall_mem_cons]
  exact ⟨trivial, fun _ => hmembers, fun _ => hmembers, List.forall_mem_nil _⟩

/-- A helper that fails, and prints; so does writing its error. -/
def brokenHelper : Act Failure (Body Unit) where
  printed := utf8 "?"
  elapsed := 0
  ending := .failed ["none"]
  writing := { printed := utf8 "!" }

/-- The test is listed, and two members are warned of; the base is not asked. -/
theorem Registry.discoverFiles_inspects_asked :
    (askedRegistry brokenHelper).HasSteadyGetters ⟨none⟩ ∧
      ((askedRegistry brokenHelper).discoverFile soloTree ⟨none⟩ [soloDirectory] soloFile).Shows
        [.called "m" "Solo" (.resolve "helper"), .printed (utf8 "?"), .printed (utf8 "!"),
          .called "m" "Solo" (.resolve "test_broken"),
          .warned ⟨"m", "Solo", "test_value", none⟩,
          .warned ⟨"m", "Solo", "test_broken", some "no"⟩]
        (.finished [.ofParts "m" "Solo" "test_one"]) := by
  have hr : (askedRegistry brokenHelper).HasSteadyGetters ⟨none⟩ :=
    hasSteadyGetters_askedRegistry rfl ⟨rfl, rfl⟩ ⟨none⟩
  obtain ⟨-, -, hcases⟩ := (discoverFiles_inspects rfl hr soloTree [soloDirectory]).2 soloFile "m"
    moduleOfFile_soloFile
  refine ⟨hr, ?_⟩
  rcases hcases (by decide) with ⟨-, hshows⟩ | ⟨es, code, hcut, -⟩
  · exact ⟨hshows.events.trans (by decide +kernel), hshows.ending.trans (by decide +kernel)⟩
  · exact absurd (isInspectable_askedCalls _ ⟨⟨_, rfl⟩, rfl, rfl⟩) hcut.not_forall_isInspectable

/-- **A getter that ends the process**, and is no test, leaves nothing discovered. -/
theorem Registry.discoverFiles_may_exit :
    (askedRegistry (.ofEnding (.exited 3))).HasSteadyGetters ⟨some "1"⟩ ∧
      moduleOfFile soloTree [soloDirectory] soloFile = .ok "m" ∧
      "m" ∈ (askedCalls (.ofEnding (.exited 3))).map (·.1) ∧
      ((askedRegistry (.ofEnding (.exited 3))).discoverFiles soloTree ⟨some "1"⟩ [soloDirectory]
        [soloFile]).ending = .exited 3 := by
  refine ⟨hasSteadyGetters_askedRegistry rfl ⟨rfl, rfl⟩ _, moduleOfFile_soloFile, by decide, ?_⟩
  rw [discoverFiles, List.mapM_cons, discoverFile_eq moduleOfFile_soloFile]
  rfl

end SuitePool
