import Mathlib.Data.List.Basic
import Mathlib.Data.List.Forall2
import Mathlib.Tactic.Common
import SuitePool.Proofs.Cases.Calls
import SuitePool.Proofs.Cases.Order
import SuitePool.Proofs.Loop.Serve

/-!
# The lifecycle of cases

A run calls hooks in blocks, one block for each id: a getter may be asked for the method, a fresh
instance is built and set up, and what was set up is used once and torn down, whatever the body did.
The first id that is refused ends the run with its own error, and only its getter may have been
called.  Suite code that ends the process ends the block in which it does, and the run with it; so
does a panic that leaves a case.

The code of a suite may be another one at each case, because of what cases before it did.  A run of
such code is one over a sequence of registries, the n-th of which has the code as it is at the n-th
case.

## Main definitions

* `Suite.Binds`: how a method gets its body.
* `Registry.runChanging`: a run of ids whose suite code changes.
* `Registry.IsBlock`: the calls of an id that is run.
* `Registry.Refuses`: an id that is not run, and the error of it.
* `Registry.Stops`: where a run of ids stops.

## Main results

* `groupIds_of_first_dotless`: the first id without a dot.
* `Registry.runChanging_const`: a run of code that does not change.
* `Registry.runOne_cases`: one id in a run.
* `Registry.runIds_lifecycle`: a run of ids.
-/

namespace SuitePool

open Text

variable {σ ε φ α β : Type}

/-! ## How a method gets its body -/

section Binding

variable (s : Suite σ) (host : Host) (method : String)

/-- The member with a name. -/
def Suite.member? : Option (Member σ) :=
  (s.members.find? fun m => m.1 == method).map (·.2)

/-- **How a method of a suite gets its body**, and the calls that this takes. -/
inductive Suite.Binds : Body σ → List Call → Prop where
  /-- It is at hand. -/
  | method {body : Body σ} (hc : s.isAbstract = false)
      (hm : s.member? method = some (.method body)) : Binds body []
  /-- A getter is asked for it. -/
  | getter {resolve : Host → Act Failure (Body σ)} {body : Body σ} (hc : s.isAbstract = false)
      (hm : s.member? method = some (.getter resolve))
      (hbody : (resolve host).ending = .finished body) :
      Binds body [(resolve host).call (.resolve method) []]

/-- **A method of a suite that gets no body**, with the error of that and the calls before. -/
inductive Suite.Refuses : Error → List Call → Prop where
  /-- The suite is abstract. -/
  | abstract (ha : s.isAbstract = true) : Refuses (.abstractSuite s.name) []
  /-- There is no such member. -/
  | absent (hc : s.isAbstract = false) (hm : s.member? method = none) :
      Refuses (.methodNotFound s.name method) []
  /-- The member cannot be called. -/
  | value (hc : s.isAbstract = false) (hm : s.member? method = some .value) :
      Refuses (.methodNotFound s.name method) []
  /-- The getter yields no method. -/
  | getter {resolve : Host → Act Failure (Body σ)} {f : Failure} {behind : List Bytes}
      (hc : s.isAbstract = false) (hm : s.member? method = some (.getter resolve))
      (hf : (resolve host).ending = .failed f) :
      Refuses (.methodNotFound s.name method) [(resolve host).call (.resolve method) behind]

end Binding

/-! ## The calls of an id -/

namespace Registry

variable (r : Registry σ) (host : Host) (id : TestId)

/-- **The calls of an id** that is run: those of its case, behind that of its getter. -/
inductive IsBlock : List Event → Prop where
  | mk {module : String} {s : Suite σ} {body : Body σ} {asked calls : List Call}
      (hs : r.suiteOf id = .ok (module, s)) (hb : s.Binds host (id.method?.getD "") body asked)
      (hc : s.Lifecycle host (id.method?.getD "") body calls) :
      IsBlock (eventsOfCalls module s.name (asked ++ calls))

/-- **An id that is not run**, because its suite is missing or its method has no body; with the
error of that, and what is seen of its getter. -/
inductive Refuses : Error → List Event → Prop where
  /-- The path of the suite has no dot. -/
  | path {path : String} (hp : id.suitePath? = some path) (hd : '.' ∉ path.toList) :
      Refuses (.invalidTestId path) []
  /-- There is no such module. -/
  | module {path module suite : String} (hp : id.suitePath? = some path)
      (hd : splitAtLastDot path = some (module, suite))
      (hm : r.modules.find? (fun m => m.name == module) = none) :
      Refuses (.moduleNotFound module) []
  /-- The module has no such suite. -/
  | suite {path module suite : String} {m : Module σ} (hp : id.suitePath? = some path)
      (hd : splitAtLastDot path = some (module, suite))
      (hm : r.modules.find? (fun m => m.name == module) = some m)
      (hs : findSuite? suite m.items = none) : Refuses (.suiteNotFound path) []
  /-- The suite has no body for the method. -/
  | method {module : String} {s : Suite σ} {e : Error} {asked : List Call}
      (hs : r.suiteOf id = .ok (module, s)) (h : s.Refuses host (id.method?.getD "") e asked) :
      Refuses e (eventsOfCalls module s.name asked)

/-- **An id whose suite code ends the process**, or lets a panic out, with the calls up to then. -/
inductive BreaksOff : Ending Empty Empty → List Event → Prop where
  /-- The getter ends the process, or the code behind it. -/
  | getter {module : String} {s : Suite σ} {resolve : Host → Act Failure (Body σ)} {code : UInt8}
      {behind : List Bytes} (hs : r.suiteOf id = .ok (module, s)) (hc : s.isAbstract = false)
      (hm : s.member? (id.method?.getD "") = some (.getter resolve))
      (hbody : ∀ body, (resolve host).ending ≠ .finished body)
      (hends : (resolve host).EndsWith (.exited code)) :
      BreaksOff (.exited code)
        (eventsOfCalls module s.name [(resolve host).call (.resolve (id.method?.getD "")) behind])
  /-- The case is left on its way. -/
  | stage {module : String} {s : Suite σ} {body : Body σ} {asked calls : List Call}
      {e : Ending Empty Empty} (hs : r.suiteOf id = .ok (module, s))
      (hb : s.Binds host (id.method?.getD "") body asked)
      (hc : s.CutShort host (id.method?.getD "") body calls e) :
      BreaksOff e (eventsOfCalls module s.name (asked ++ calls))

/-- **Where a run stops**, of the ids that are left; with what is seen of the first of them. -/
inductive Stops : List TestId → List Event → Ending Error Report → Prop where
  /-- Behind the last id. -/
  | done (report : Report) : Stops [] [] (.finished report)
  /-- At an id that is not run. -/
  | refused {id : TestId} {after : List TestId} {e : Error} {es : List Event}
      (h : r.Refuses host id e es) : Stops (id :: after) es (.failed e)
  /-- At an id whose suite code ends the process, or lets a panic out. -/
  | brokenOff {id : TestId} {after : List TestId} {e : Ending Empty Empty} {es : List Event}
      (h : r.BreaksOff host id e es) : Stops (id :: after) es e.ofEmpty

end Registry

/-! ## Binding -/

/-- **A getter yields a method**, fails, or ends the process. -/
theorem Act.resolved_cases {a : Act Failure α} (hp : a.ending.isPanic = false) (hcalm : a.IsCalm)
    (module suite name : String) (e : Error) :
    (∃ b, a.ending = .finished b ∧ (a.resolved module suite name e).Shows
        (eventsOfCalls module suite [a.call (.resolve name) []]) (.finished b)) ∨
      (∃ f behind, a.ending = .failed f ∧ (a.resolved module suite name e).Shows
        (eventsOfCalls module suite [a.call (.resolve name) behind]) (.failed e)) ∨
      ∃ behind code, (∀ b, a.ending ≠ .finished b) ∧ a.EndsWith (.exited code) ∧
        (a.resolved module suite name e).Shows
          (eventsOfCalls module suite [a.call (.resolve name) behind]) (.exited code) := by
  have hevents := a.events_run module suite (.resolve name)
  have hasked {r : Except Failure α}
      (h : ((a.run module suite (.resolve name)).attempt : Exec Error _).ending = .finished r) :
      ((a.run module suite (.resolve name)).attempt : Exec Error _).Shows
        (eventsOfCalls module suite [a.call (.resolve name) []]) (.finished r) := ⟨hevents, h⟩
  unfold resolved
  cases ha : a.ending with
  | finished b =>
    refine .inl ⟨b, rfl, (hasked (r := .ok b) ?_).bind_pure rfl⟩
    simp only [Exec.attempt, run, ha]
  | failed f =>
    have hfailed := hasked (r := .error f) (by simp only [Exec.attempt, run, ha])
    obtain ⟨behind, ⟨u, hdropped⟩ | ⟨b, hdropped⟩⟩ := Exec.shows_printed (ε := Error)
      a.hasBehind_printed.dropping a.hasBehind_not_isFailure.dropping
    · refine .inr (.inl ⟨f, behind, rfl, ?_⟩)
      rw [← List.nil_append behind, ← a.eventsOfCalls_behind]
      refine hfailed.bind ?_
      rw [← List.append_nil (behind.map _)]
      exact hdropped.bind ⟨rfl, rfl⟩
    · -- The error is dropped calmly, so this ends the process.
      have hb : b.isPanic = false := by
        rw [← Ending.isPanic_ofEmpty (ε := Error) (α := Unit), ← hdropped.ending,
          Aftermath.isPanic_run, hcalm.dropping]
      obtain ⟨code, rfl⟩ : ∃ code, b = .exited code := by
        cases b with
        | finished b => exact b.elim
        | failed e => exact e.elim
        | panicked m => cases hb
        | exited code => exact ⟨code, rfl⟩
      refine .inr (.inr ⟨behind, code, by simp, Act.endsWith_of_stays (by rw [ha]; rfl) _, ?_⟩)
      rw [← List.nil_append behind, ← a.eventsOfCalls_behind]
      exact hfailed.bind hdropped.bind_exited
  | panicked m => rw [ha] at hp; cases hp
  | exited code =>
    refine .inr (.inr ⟨[], code, by simp, Act.endsWith_of_exited ha, Exec.Shows.bind_exited
      ⟨hevents, ?_⟩⟩)
    simp only [Exec.attempt, run, ha]

namespace Suite

variable {s : Suite σ} {host : Host} {method : String}

theorem member?_eq_some_iff {m : Member σ} :
    s.member? method = some m ↔ s.members.find? (fun m => m.1 == method) = some (method, m) := by
  rw [member?, Option.map_eq_some_iff]
  constructor
  · rintro ⟨⟨name, m⟩, hfind, rfl⟩
    obtain rfl : name = method := by simpa using List.find?_some hfind
    exact hfind
  · intro hfind
    exact ⟨_, hfind, rfl⟩

/-- **A method is bound**, is refused, or its getter ends the process. -/
theorem bind_cases
    (hg : ∀ name resolve, (name, .getter resolve) ∈ s.members →
      (resolve host).ending.isPanic = false ∧ (resolve host).IsCalm)
    (module method : String) :
    (∃ body asked, s.Binds host method body asked ∧
        (s.bind module host method).Shows (eventsOfCalls module s.name asked) (.finished body)) ∨
      (∃ e asked, s.Refuses host method e asked ∧
        (s.bind module host method).Shows (eventsOfCalls module s.name asked) (.failed e)) ∨
      ∃ resolve behind code, s.isAbstract = false ∧ s.member? method = some (.getter resolve) ∧
        (∀ body, (resolve host).ending ≠ .finished body) ∧
        (resolve host).EndsWith (.exited code) ∧
        (s.bind module host method).Shows
          (eventsOfCalls module s.name [(resolve host).call (.resolve method) behind])
          (.exited code) := by
  cases hc : s.isAbstract with
  | true =>
    refine .inr (.inl ⟨_, [], .abstract hc, ?_⟩)
    rw [bind, if_pos hc]
    exact ⟨rfl, rfl⟩
  | false =>
    -- The first member of this name decides, whatever members come behind it.
    cases hm : s.member? method with
    | none =>
      refine .inr (.inl ⟨_, [], .absent hc hm, ?_⟩)
      simp only [bind, hc, Option.map_eq_none_iff.1 hm]
      exact ⟨rfl, rfl⟩
    | some m =>
      cases m with
      | method body =>
        refine .inl ⟨body, [], .method hc hm, ?_⟩
        simp only [bind, hc, member?_eq_some_iff.1 hm]
        exact ⟨rfl, rfl⟩
      | value =>
        refine .inr (.inl ⟨_, [], .value hc hm, ?_⟩)
        simp only [bind, hc, member?_eq_some_iff.1 hm]
        exact ⟨rfl, rfl⟩
      | getter resolve =>
        have hmember := member?_eq_some_iff.1 hm
        obtain ⟨hp, hcalm⟩ := hg method resolve (List.mem_of_find?_eq_some hmember)
        have hbind : s.bind module host method =
            (resolve host).resolved module s.name method (.methodNotFound s.name method) := by
          simp only [bind, hc, hmember]
          rfl
        rw [hbind]
        rcases (resolve host).resolved_cases hp hcalm module s.name method
            (.methodNotFound s.name method) with
          ⟨body, hbody, hshows⟩ | ⟨f, behind, hf, hshows⟩ | ⟨behind, code, hbody, hends, hshows⟩
        · exact .inl ⟨body, _, .getter hc hm hbody, hshows⟩
        · exact .inr (.inl ⟨_, _, .getter hc hm hf, hshows⟩)
        · exact .inr (.inr ⟨resolve, behind, code, rfl, rfl, hbody, hends, hshows⟩)

theorem Binds.not_refuses {body : Body σ} {asked asked' : List Call} {e : Error}
    (h : s.Binds host method body asked) : ¬ s.Refuses host method e asked' := by
  intro hr
  cases h with
  | method hc hm => cases hr <;> simp_all
  | getter hc hm hbody => cases hr <;> simp_all

end Suite

/-! ## One id -/

theorem splitAtLastDot_eq_none_iff {text : String} :
    splitAtLastDot text = none ↔ '.' ∉ text.toList := by
  rw [splitAtLastDot, Option.map_eq_none_iff, splitLast_eq_none_iff]

theorem TestId.suitePath?_eq_none_iff {id : TestId} :
    id.suitePath? = none ↔ '.' ∉ id.text.toList := by
  rw [suitePath?, Option.map_eq_none_iff, splitAtLastDot_eq_none_iff]

namespace Registry

variable {r : Registry σ} {host : Host} {id : TestId}

/-- An id whose suite is missing is refused. -/
theorem refuses_of_suiteOf_error {e : Error} (hid : id.suitePath?.isSome)
    (h : r.suiteOf id = .error e) : r.Refuses host id e [] := by
  obtain ⟨path, hp⟩ := Option.isSome_iff_exists.1 hid
  rw [suiteOf, hp] at h
  simp only [loadSuite] at h
  cases hd : splitAtLastDot path with
  | none =>
    rw [hd] at h
    cases h
    exact .path hp (splitAtLastDot_eq_none_iff.1 hd)
  | some p =>
    obtain ⟨module, suite⟩ := p
    simp only [hd, loadModule] at h
    cases hm : r.modules.find? (fun m => m.name == module) with
    | none =>
      rw [hm] at h
      cases h
      exact .module hp hd hm
    | some m =>
      simp only [hm, Bind.bind, Except.bind] at h
      cases hs : findSuite? suite m.items with
      | none =>
        rw [hs] at h
        cases h
        exact .suite hp hd hm hs
      | some s =>
        rw [hs] at h
        cases h

theorem hasSuite_of_suiteOf {module : String} {s : Suite σ}
    (h : r.suiteOf id = .ok (module, s)) : r.HasSuite s := by
  rw [suiteOf] at h
  cases hp : id.suitePath? with
  | none => rw [hp] at h; cases h
  | some path =>
    rw [hp] at h
    exact hasSuite_of_loadSuite h

/-- **One id in a run** is a block of calls, or the run stops there. -/
theorem runOne_cases (hg : r.HasSteadyGetters host) (hid : id.suitePath?.isSome) (q : Report)
    (after : List TestId) :
    (∃ block q', r.IsBlock host id block ∧ (r.runOne host q id).Shows block (.finished q')) ∨
      ∃ es e, r.Stops host (id :: after) es e ∧ (r.runOne host q id).Shows es e := by
  unfold runOne
  cases hs : r.suiteOf id with
  | error e => exact .inr ⟨[], _, .refused (refuses_of_suiteOf_error hid hs), rfl, rfl⟩
  | ok p =>
    obtain ⟨module, s⟩ := p
    rw [Exec.ofExcept, pure_bind]
    dsimp only
    unfold runId
    rcases s.bind_cases (hg s (hasSuite_of_suiteOf hs)) module (id.method?.getD "") with
      ⟨body, asked, hbinds, hbind⟩ | ⟨e, asked, hrefuses, hbind⟩ |
        ⟨resolve, behind, code, hc, hm, hbody, hends, hbind⟩
    · rcases s.runCase_cases (ε := Error) module host (id.method?.getD "") body id q with
        ⟨calls, q', hcalls, hcase⟩ | ⟨calls, e, hcalls, hcase⟩
      · refine .inl ⟨_, q', .mk hs hbinds hcalls, ?_⟩
        rw [eventsOfCalls_append]
        exact hbind.bind hcase
      · refine .inr ⟨_, _, .brokenOff (.stage hs hbinds hcalls), ?_⟩
        rw [eventsOfCalls_append]
        exact hbind.bind hcase
    · exact .inr ⟨_, _, .refused (.method hs hrefuses), hbind.bind_failed⟩
    · exact .inr ⟨_, _, .brokenOff (.getter hs hc hm hbody hends), hbind.bind_exited⟩

theorem suiteOf_of_path {path : String} (hp : id.suitePath? = some path) :
    r.suiteOf id = r.loadSuite path := by
  rw [suiteOf, hp]

/-- **An id that is run is not refused.** -/
theorem IsBlock.not_refuses {block es : List Event} {e : Error} (h : r.IsBlock host id block) :
    ¬ r.Refuses host id e es := by
  obtain ⟨hs, hb, -⟩ := h
  intro hr
  cases hr with
  | path hp hd =>
    rw [suiteOf_of_path hp, loadSuite, splitAtLastDot_eq_none_iff.2 hd] at hs
    cases hs
  | module hp hd hm =>
    rw [suiteOf_of_path hp, loadSuite, hd] at hs
    simp only [loadModule, hm] at hs
    cases hs
  | suite hp hd hm hn =>
    rw [suiteOf_of_path hp, loadSuite, hd] at hs
    simp only [loadModule, hm, Bind.bind, Except.bind, hn] at hs
    cases hs
  | method hs' hr =>
    cases hs.symm.trans hs'
    exact hb.not_refuses hr

/-- Nothing follows an id at which a run stops. -/
theorem Stops.bind {x : Exec Error Report} {after : List TestId} {es : List Event}
    {e : Ending Error Report} (h : r.Stops host (id :: after) es e) (hx : x.Shows es e)
    (f : Report → Exec Error Report) : (x >>= f).Shows es e := by
  cases h with
  | refused h => exact hx.bind_failed
  | brokenOff h => exact hx.bind_ofEmpty

/-- **Ids that are run one after the other** are blocks of calls, up to where the run stops. -/
theorem foldlM_runOne_cases {rs : Nat → Registry σ} (hg : ∀ i, (rs i).HasSteadyGetters host)
    {order : List TestId} (hids : ∀ id ∈ order, id.suitePath?.isSome) (k : Nat) (q : Report) :
    ∃ before after blocks last e, order = before ++ after ∧
      List.Forall₂ (fun p block => (rs p.2).IsBlock host p.1 block) (before.zipIdx k) blocks ∧
      (rs (before.length + k)).Stops host after last e ∧
      ((order.zipIdx k).foldlM (fun q p => (rs p.2).runOne host q p.1) q).Shows
        (blocks.flatten ++ last) e := by
  induction order generalizing k q with
  | nil => exact ⟨[], [], [], [], _, rfl, .nil, .done q, rfl, rfl⟩
  | cons id ids ih =>
    rw [List.forall_mem_cons] at hids
    rw [List.zipIdx_cons, List.foldlM_cons]
    rcases runOne_cases (hg k) hids.1 q ids with
      ⟨block, q', hblock, hshows⟩ | ⟨es, e, hstops, hshows⟩
    · -- The others go on from the report of the first, at the next place.
      obtain ⟨before, after, blocks, last, e, rfl, hblocks, hstops, hrest⟩ := ih hids.2 (k + 1) q'
      refine ⟨id :: before, after, block :: blocks, last, e, rfl, ?_, ?_, ?_⟩
      · rw [List.zipIdx_cons]
        exact .cons hblock hblocks
      · rw [List.length_cons, Nat.add_assoc, Nat.add_comm 1 k]
        exact hstops
      · rw [List.flatten_cons, List.append_assoc]
        exact hshows.bind hrest
    · refine ⟨[], id :: ids, [], es, e, rfl, .nil, ?_, hstops.bind hshows _⟩
      rw [List.length_nil, Nat.zero_add]
      exact hstops

end Registry

/-! ## Code that changes -/

namespace Registry

/-- **A run of ids whose suite code changes**: at the n-th case, counted from zero, it is that of
the n-th registry. -/
def runChanging (rs : Nat → Registry σ) (host : Host) (ids : List TestId) : Exec Error Report := do
  let groups ← Exec.ofExcept (groupIds ids)
  (groups.flatMap (·.2)).zipIdx.foldlM (fun q p => (rs p.2).runOne host q p.1) .empty

/-- **A run of code that does not change** is a run of ids. -/
theorem runChanging_const (r : Registry σ) (host : Host) (ids : List TestId) :
    runChanging (fun _ => r) host ids = r.runIds host ids := by
  unfold runChanging
  cases hg : groupIds ids with
  | error e =>
    rw [runIds, hg]
    rfl
  | ok groups =>
    rw [r.runIds_eq_foldlM host hg, Exec.ofExcept, pure_bind]
    conv_rhs => rw [← List.zipIdx_map_fst 0 (groups.flatMap (·.2)), List.foldlM_map]

/-- The order of such a run is that of any. -/
theorem runChanging_eq_foldlM_bySuite (rs : Nat → Registry σ) (host : Host) {ids : List TestId}
    (h : ∀ id ∈ ids, id.suitePath?.isSome) :
    runChanging rs host ids = (TestId.bySuite ids).zipIdx.foldlM
      (fun q p => (rs p.2).runOne host q p.1) .empty := by
  obtain ⟨groups, hg⟩ := exists_groupIds h
  rw [runChanging, hg, Exec.ofExcept, pure_bind, flatMap_groupIds hg]

end Registry

section Kept

variable {rs : Nat → Registry σ} {host : Host}

/-- **What is kept is kept by such a run**, if the code of the suites has it. -/
theorem Exec.IsCleanable.runChanging {P : (α : Type) → Exec Error α → Prop}
    (hP : Exec.IsCleanable P) (hfail : ∀ {α : Type} (e : Error), P α (.fail e))
    (hs : ∀ i s, (rs i).HasSuite s → s.Has P host) (ids : List TestId) :
    P _ (Registry.runChanging rs host ids) := by
  refine hP.bind (hP.ofExcept hfail _) fun groups _ => ?_
  refine hP.foldlM _ (fun q p _ => ?_) _
  refine hP.bind (hP.ofExcept hfail _) fun found hfound => ?_
  have hsuite := hs p.2 _ (Registry.hasSuite_of_suiteOf (Exec.finished_ofExcept hfound))
  exact hP.runId hfail hsuite found.1 p.1 q

/-- **Such a run does not panic** if no getter panics, and no panic leaves a case. -/
theorem Registry.isPanic_runChanging (hg : ∀ i, (rs i).HasSteadyGetters host)
    (hl : ∀ i, (rs i).LeaksNoPanic host) (ids : List TestId) :
    (runChanging rs host ids).ending.isPanic = false :=
  Exec.isCleanable_not_isPanic.runChanging (fun _ => rfl)
    (fun i _ hs => has_of_leaksNoPanic (hg i) (hl i) hs) ids

/-- **Such a run ends orderly** if all suites are tame. -/
theorem Registry.isOrderly_runChanging (ht : ∀ i, (rs i).IsTameIn host) (ids : List TestId) :
    (runChanging rs host ids).ending.IsOrderly :=
  Exec.isCleanable_isOrderly.runChanging .failed (fun i s hs => (ht i s hs).has_isOrderly) ids

end Kept

/-! ## Ids without a dot -/

/-- **The first id without a dot** ends grouping. -/
theorem groupIds_of_first_dotless {before after : List TestId} {id : TestId}
    (hb : ∀ i ∈ before, i.suitePath?.isSome) (hid : id.suitePath? = none) :
    groupIds (before ++ id :: after) = .error (.invalidTestId id.text) := by
  obtain ⟨groups, hg⟩ := exists_groupIds hb
  rw [groupIds] at hg ⊢
  rw [List.foldlM_append, hg]
  show (id :: after).foldlM addId groups = _
  rw [List.foldlM_cons, addId, hid]
  rfl

/-! ## A run -/

/-- **The calls of a run**, whose suite code may change from case to case.  An id without a dot ends
the run before anything is called.  Otherwise the ids are run in blocks of calls, in the order of a
run, up to the first that is refused, or whose suite code ends the process or lets a panic out;
nothing is called behind that one.  A panic is let out only if one can leave a case; and a run of
tame suites stops at an id only if it is refused. -/
theorem Registry.runIds_lifecycle {rs : Nat → Registry σ} {host : Host}
    (hg : ∀ i, (rs i).HasSteadyGetters host) (ids : List TestId) :
    (∀ r, rs = (fun _ => r) → runChanging rs host ids = r.runIds host ids) ∧
      (∀ before id after, ids = before ++ id :: after → (∀ i ∈ before, '.' ∈ i.text.toList) →
        '.' ∉ id.text.toList → runChanging rs host ids = .fail (.invalidTestId id.text)) ∧
      ((∀ id ∈ ids, '.' ∈ id.text.toList) →
        ∃ before after blocks last ending, TestId.bySuite ids = before ++ after ∧
          List.Forall₂ (fun p block => (rs p.2).IsBlock host p.1 block) before.zipIdx blocks ∧
          (∀ p ∈ before.zipIdx, ∀ e es, ¬ (rs p.2).Refuses host p.1 e es) ∧
          (rs before.length).Stops host after last ending ∧
          (runChanging rs host ids).Shows (blocks.flatten ++ last) ending ∧
          ((∀ i, (rs i).LeaksNoPanic host) → ending.isPanic = false) ∧
          ((∀ i, (rs i).IsTameIn host) → ending.IsOrderly)) := by
  have hdot {id : TestId} : id.suitePath?.isSome ↔ '.' ∈ id.text.toList := by
    rw [Option.isSome_iff_ne_none, Ne, TestId.suitePath?_eq_none_iff, not_not]
  simp only [← hdot]
  refine ⟨?_, ?_, ?_⟩
  · rintro r rfl
    exact runChanging_const r host ids
  · rintro before id after rfl hb hid
    have hnone := TestId.suitePath?_eq_none_iff.2 (hdot.not.1 hid)
    rw [runChanging, groupIds_of_first_dotless hb hnone]
    rfl
  · intro hids
    -- The order of a run has the ids that were given, so they all have dots.
    obtain ⟨before, after, blocks, last, ending, horder, hblocks, hstops, hshows⟩ :=
      foldlM_runOne_cases hg
        (fun id hid => hids id ((TestId.perm_bySuite ids).mem_iff.1 hid)) 0 .empty
    rw [← runChanging_eq_foldlM_bySuite rs host hids] at hshows
    refine ⟨before, after, blocks, last, ending, horder, hblocks, ?_, hstops, hshows, fun hl => ?_,
      fun ht => ?_⟩
    · intro p hp e es hrefuses
      have hrun : ∀ p ∈ before.zipIdx, ∃ block, (rs p.2).IsBlock host p.1 block :=
        exists_of_mem_forall₂ hblocks
      obtain ⟨block, hblock⟩ := hrun p hp
      exact hblock.not_refuses hrefuses
    · rw [← hshows.ending]
      exact isPanic_runChanging hg hl ids
    · rw [← hshows.ending]
      exact isOrderly_runChanging ht ids

/-- A suite whose body fails in the first case, and in no other. -/
def failsAtFirst (i : Nat) : Registry Unit :=
  (soloSite [] (if i = 0 then .failed ["boom"] else .finished ())).registry

/-- Of three ids two are run and one is refused: what was set up is torn down, although the first
body fails, and no hook is called for the last one. -/
theorem Registry.runIds_lifecycle_solo :
    (∀ i, (failsAtFirst i).HasSteadyGetters ⟨none⟩) ∧
      ∃ before after blocks last,
        TestId.bySuite [soloId, soloId, .ofParts "m" "Solo" "test_two"] = before ++ after ∧
        List.Forall₂ (fun p block => (failsAtFirst p.2).IsBlock ⟨none⟩ p.1 block)
          before.zipIdx blocks ∧
        (failsAtFirst before.length).Stops ⟨none⟩ after last
          (.failed (.methodNotFound "Solo" "test_two")) ∧
        blocks.flatten ++ last =
          [.called "m" "Solo" .construct, .called "m" "Solo" .setUp,
            .called "m" "Solo" (.body "test_one"), .called "m" "Solo" .tearDown,
            .called "m" "Solo" .construct, .called "m" "Solo" .setUp,
            .called "m" "Solo" (.body "test_one"), .called "m" "Solo" .tearDown] := by
  have hg : ∀ i, (failsAtFirst i).HasSteadyGetters ⟨none⟩ :=
    fun i => hasSteadyGetters_soloSite [] _ ⟨none⟩
  have hids : ∀ id ∈ [soloId, soloId, TestId.ofParts "m" "Solo" "test_two"],
      '.' ∈ id.text.toList := by
    decide +kernel
  obtain ⟨before, after, blocks, last, ending, horder, hblocks, -, hstops, ⟨hevents, hending⟩,
    -, -⟩ :=
    (runIds_lifecycle hg [soloId, soloId, .ofParts "m" "Solo" "test_two"]).2.2 hids
  have he : ending = .failed (.methodNotFound "Solo" "test_two") := by
    rw [← hending]
    decide +kernel
  rw [he] at hstops
  refine ⟨hg, before, after, blocks, last, horder, hblocks, hstops, ?_⟩
  rw [← hevents]
  decide +kernel

/-- A body that ends the process leaves what was set up without a tear-down, and the run without a
report. -/
theorem Registry.runIds_lifecycle_may_exit :
    (soloSite [] (.exited 3)).registry.HasSteadyGetters ⟨none⟩ ∧ '.' ∈ soloId.text.toList ∧
      ((soloSite [] (.exited 3)).registry.runIds ⟨none⟩ [soloId]).events =
        [.called "m" "Solo" .construct, .called "m" "Solo" .setUp,
          .called "m" "Solo" (.body "test_one")] ∧
      ((soloSite [] (.exited 3)).registry.runIds ⟨none⟩ [soloId]).ending = .exited 3 :=
  ⟨hasSteadyGetters_soloSite _ _ _, by decide +kernel, by decide +kernel, by decide +kernel⟩

end SuitePool
