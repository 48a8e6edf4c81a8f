import Mathlib.Data.List.Basic
import Mathlib.Data.List.Forall2
import Mathlib.Data.List.Nodup
import Mathlib.Tactic.Common
import SuitePool.Proofs.Hosts
import SuitePool.Proofs.ModuleNames

/-!
# The cases of suite files

A case is a member of a suite of a module.  A registry offers those that are callable, have a name
that announces a test, and belong to a suite that is not abstract; what is discovered in files are
the ids of the cases that the modules of the files offer.  Where names are distinct and hold no dot,
every case is offered once, its id tells it, and the suite with the path of the id is that of the
case.

## Main definitions

* `Member.state`: what an inspection says about a member.
* `TestCase`, `TestCase.id`, `TestCase.IsOffered`
* `Registry.cases`: the cases that a module offers.
* `idsOfMembers`, `idsOfItems`: the ids of some members of a suite, and of some items of a module.
* `Registry.HasDistinctNames`

## Main results

* `Registry.finished_discoverModule_iff`, `Registry.discoverFiles_ids`: what is discovered are the
  ids of what is offered.
* `Registry.mem_cases_iff`, `Registry.nodup_cases`: every case that is offered is so once.
* `TestCase.IsOffered.loadSuite_eq`, `TestCase.IsOffered.id_injective`: an id tells its case.
-/

namespace SuitePool

open Text

variable {σ ε α β : Type}

/-! ## Inspections -/

/-- **What an inspection says about a member**, if it says anything. -/
def Member.state (h : Host) : Member σ → MemberState
  | .method _ => .callable
  | .value => .notCallable
  | .getter resolve =>
    match (resolve h).ending with
    | .finished _ => .callable
    | .failed f => .unreadable f.text
    | _ => .notCallable

/-- **Does an inspection of a member say anything?**  It does not if it panics or ends the
process, be it only while the error of a getter is written as a text and dropped. -/
def Member.IsInspectable (h : Host) : Member σ → Prop
  | .getter resolve => (∃ b, (resolve h).ending = .finished b) ∨
      (∃ f, (resolve h).ending = .failed f) ∧ (resolve h).IsClean
  | _ => True

/-- **Do all inspections of an item say anything?**  The members of an abstract suite are not
inspected. -/
def Item.IsInspectable (h : Host) : Item σ → Prop
  | .suite s => s.isAbstract = false → ∀ m ∈ s.members, m.2.IsInspectable h
  | _ => True

theorem finished_inspectMember_iff {module suite : String} {h : Host} {m : String × Member σ}
    {found : String × MemberState} :
    (inspectMember module suite h m : Exec ε _).ending = .finished found ↔
      m.2.IsInspectable h ∧ found = (m.1, m.2.state h) := by
  have hpure {x : String × MemberState} :
      (pure x : Exec ε _).ending = .finished found ↔ True ∧ found = x := by
    simp [pure, Exec.ofEnding, eq_comm]
  obtain ⟨name, member⟩ := m
  cases member with
  | method body => exact hpure
  | value => exact hpure
  | getter resolve =>
    simp only [inspectMember, Member.IsInspectable, Member.state, Exec.finished_bind_iff,
      Exec.attempt, Act.run]
    -- A value says something, and so does an error that is written; a panic or an exit does not.
    cases (resolve h).ending with
    | finished b => simp [pure, Exec.ofEnding, eq_comm]
    | failed f =>
      constructor
      · rintro ⟨_, ⟨⟩, h⟩
        obtain ⟨_, hw, h⟩ := Exec.finished_of_bind h
        cases h
        exact ⟨.inr ⟨⟨f, rfl⟩, Act.finished_writeError_iff.1 hw⟩, rfl⟩
      · rintro ⟨⟨_, ⟨⟩⟩ | ⟨-, hc⟩, rfl⟩
        exact ⟨_, rfl, Exec.ending_bind_of_finished (Act.finished_writeError_iff.2 hc) _⟩
    | panicked | exited => simp

/-- The ids of a member that was inspected: it yields one if it is callable and its name announces a
test. -/
def idsOfState (module suite : String) (m : String × MemberState) : List TestId :=
  if announcesTest m.1 = true ∧ m.2 = .callable then [.ofParts module suite m.1] else []

theorem ending_idsOfMember (module suite : String) (m : String × MemberState) :
    (idsOfMember module suite m : Exec ε _).ending = .finished (idsOfState module suite m) := by
  unfold idsOfMember idsOfState
  cases announcesTest m.1 with
  | false => rfl
  | true => cases m.2 <;> simp <;> rfl

/-! ## Cases -/

/-- A case: a member of a suite of a module. -/
structure TestCase (σ : Type) where
  module : String
  suite : Suite σ
  method : String

/-- The id of a case. -/
def TestCase.id (c : TestCase σ) : TestId := .ofParts c.module c.suite.name c.method

/-- **Is a case offered?**  Its suite belongs to the module and is not abstract, and its member is
callable and has a name that announces a test. -/
def TestCase.IsOffered (r : Registry σ) (h : Host) (c : TestCase σ) : Prop :=
  ∃ m, r.loadModule c.module = .ok m ∧ Item.suite c.suite ∈ m.items ∧ c.suite.isAbstract = false ∧
    ∃ member, (c.method, member) ∈ c.suite.members ∧ announcesTest c.method = true ∧
      member.state h = .callable

/-- The cases of a suite. -/
def Suite.cases (s : Suite σ) (module : String) (h : Host) : List (TestCase σ) :=
  if s.isAbstract then []
  else
    (s.members.filter fun m => announcesTest m.1 && m.2.state h == .callable).map fun m =>
      ⟨module, s, m.1⟩

/-- The cases of an item of a module. -/
def Item.cases (module : String) (h : Host) : Item σ → List (TestCase σ)
  | .suite s => s.cases module h
  | _ => []

/-- **The cases that a module offers**, in the order in which they are discovered. -/
def Registry.cases (r : Registry σ) (h : Host) (module : String) : List (TestCase σ) :=
  match r.loadModule module with
  | .ok m => m.items.flatMap (Item.cases module h)
  | .error _ => []

theorem Suite.mem_cases_iff {s : Suite σ} {module : String} {h : Host} {c : TestCase σ} :
    c ∈ s.cases module h ↔ c.module = module ∧ c.suite = s ∧ s.isAbstract = false ∧
      ∃ member, (c.method, member) ∈ s.members ∧ announcesTest c.method = true ∧
        member.state h = .callable := by
  unfold Suite.cases
  cases hs : s.isAbstract with
  | true => simp
  | false =>
    obtain ⟨module', suite, method⟩ := c
    simp only [Bool.false_eq_true, if_false, List.mem_map, List.mem_filter, Bool.and_eq_true,
      beq_iff_eq, TestCase.mk.injEq, true_and, Prod.exists]
    constructor
    · rintro ⟨name, member, ⟨hm, ha, hst⟩, rfl, rfl, rfl⟩
      exact ⟨rfl, rfl, member, hm, ha, hst⟩
    · rintro ⟨rfl, rfl, member, hm, ha, hst⟩
      exact ⟨method, member, ⟨hm, ha, hst⟩, rfl, rfl, rfl⟩

/-- The ids of the cases of a suite, member by member. -/
theorem Suite.flatMap_ids {s : Suite σ} (ha : s.isAbstract = false) (module : String) (h : Host) :
    (s.members.flatMap fun m => idsOfState module s.name (m.1, m.2.state h)) =
      (s.cases module h).map TestCase.id := by
  rw [Suite.cases, ha, if_neg Bool.false_ne_true, List.map_map]
  induction s.members with
  | nil => rfl
  | cons m members ih =>
    rw [List.flatMap_cons, List.filter_cons, ih, idsOfState]
    by_cases hm : announcesTest m.1 = true ∧ m.2.state h = .callable
    · simp [hm, TestCase.id]
    · have hn : (announcesTest m.1 && m.2.state h == .callable) = false := by simpa using hm
      simp [hm, hn]

namespace Registry

variable {r : Registry σ} {h : Host}

theorem mem_cases_iff {module : String} {c : TestCase σ} :
    c ∈ r.cases h module ↔ c.module = module ∧ c.IsOffered r h := by
  unfold cases TestCase.IsOffered
  constructor
  · cases hm : r.loadModule module with
    | error e => simp
    | ok m =>
      intro hc
      obtain ⟨item, hi, hc⟩ := List.mem_flatMap.1 hc
      cases item with
      | suite s =>
        obtain ⟨rfl, rfl, ha, hmember⟩ := Suite.mem_cases_iff.1 hc
        exact ⟨rfl, m, hm, hi, ha, hmember⟩
      | plainClass n => cases hc
      | value n => cases hc
  · rintro ⟨rfl, m, hm, hi, ha, hmember⟩
    rw [hm]
    exact List.mem_flatMap.2
      ⟨.suite c.suite, hi, Suite.mem_cases_iff.2 ⟨rfl, rfl, ha, hmember⟩⟩

/-! ## Discovery -/

theorem finished_idsOfItem_iff {module : String} {item : Item σ} {ids : List TestId} :
    (idsOfItem module h item : Exec ε _).ending = .finished ids ↔
      item.IsInspectable h ∧ ids = (item.cases module h).map TestCase.id := by
  have hnone : (pure [] : Exec ε (List TestId)).ending = .finished ids ↔ True ∧ ids = [] := by
    simp [pure, Exec.ofEnding, eq_comm]
  cases item with
  | plainClass n => exact hnone
  | value n => exact hnone
  | suite s =>
    simp only [idsOfItem, Item.cases, Item.IsInspectable]
    cases ha : s.isAbstract with
    | true => simpa [Suite.cases, ha] using hnone
    | false =>
      rw [if_neg Bool.false_ne_true, ← Suite.flatMap_ids ha]
      -- First all members are inspected, and then the ids of all are made.
      have hstates {states} : (s.inspect module h : Exec ε _).ending = .finished states ↔ _ :=
        Exec.finished_mapM_iff fun m _ _ => finished_inspectMember_iff
      have hids {states : List (String × MemberState)} {found} :
          (states.mapM (idsOfMember module s.name) : Exec ε _).ending = .finished found ↔
            (∀ m ∈ states, True) ∧ found = states.map (idsOfState module s.name) :=
        Exec.finished_mapM_iff fun m _ b => by rw [ending_idsOfMember]; simp [eq_comm]
      simp only [Exec.finished_bind_iff, hstates, hids]
      constructor
      · rintro ⟨states, ⟨hall, rfl⟩, found, ⟨-, rfl⟩, h⟩
        cases h
        exact ⟨fun _ => hall, by rw [List.map_map, ← List.flatMap_def]; rfl⟩
      · rintro ⟨hall, rfl⟩
        refine ⟨_, ⟨hall trivial, rfl⟩, _, ⟨fun _ _ => trivial, rfl⟩, ?_⟩
        rw [List.map_map, ← List.flatMap_def]
        rfl

/-- **What is discovered in a module**: the ids of the cases that it offers, if all inspections say
anything. -/
theorem finished_discoverModule_iff {module : String} {m : Module σ}
    (hm : r.loadModule module = .ok m) {ids : List TestId} :
    (r.discoverModule h module).ending = .finished ids ↔
      (∀ item ∈ m.items, item.IsInspectable h) ∧ ids = (r.cases h module).map TestCase.id := by
  have hitems {found} :
      (m.items.mapM (idsOfItem module h) : Exec Error _).ending = .finished found ↔ _ :=
    Exec.finished_mapM_iff fun item _ _ => finished_idsOfItem_iff
  have hcases : (r.cases h module).map TestCase.id =
      (m.items.map fun item => (item.cases module h).map TestCase.id).flatten := by
    rw [cases, hm, List.map_flatMap, List.flatMap_def]
  rw [discoverModule, hm, Exec.ofExcept, pure_bind, Exec.finished_bind_iff, hcases]
  simp only [hitems]
  constructor
  · rintro ⟨found, ⟨hall, rfl⟩, h⟩
    cases h
    exact ⟨hall, rfl⟩
  · rintro ⟨hall, rfl⟩
    exact ⟨_, ⟨hall, rfl⟩, rfl⟩

/-- What is discovered in a module are the ids of the cases that it offers. -/
theorem discoverModule_ids {module : String} {ids : List TestId}
    (hd : (r.discoverModule h module).ending = .finished ids) :
    ids = (r.cases h module).map TestCase.id := by
  obtain ⟨m, hm, -⟩ := Exec.finished_of_bind hd
  exact ((finished_discoverModule_iff (Exec.finished_ofExcept hm)).1 hd).2

end Registry

/-! ## Ids of members and items -/

/-- The ids of some members of a suite that is not abstract. -/
def idsOfMembers (module suite : String) (h : Host) (members : List (String × Member σ)) :
    List TestId :=
  members.flatMap fun m => idsOfState module suite (m.1, m.2.state h)

/-- The ids of some items of a module. -/
def idsOfItems (module : String) (h : Host) (items : List (Item σ)) : List TestId :=
  items.flatMap fun item => (item.cases module h).map TestCase.id

theorem Registry.ids_cases {r : Registry σ} {module : String} {m : Module σ}
    (hm : r.loadModule module = .ok m) (h : Host) :
    (r.cases h module).map TestCase.id = idsOfItems module h m.items := by
  rw [cases, hm, List.map_flatMap, idsOfItems]

/-- The ids of a suite between other items. -/
theorem idsOfItems_suite (module : String) (h : Host) (before : List (Item σ)) {s : Suite σ}
    (ha : s.isAbstract = false) (after : List (Item σ)) :
    idsOfItems module h (before ++ .suite s :: after) =
      idsOfItems module h before ++ idsOfMembers module s.name h s.members ++
        idsOfItems module h after := by
  have hs : (Item.cases module h (.suite s)).map TestCase.id =
      idsOfMembers module s.name h s.members := (Suite.flatMap_ids ha module h).symm
  rw [idsOfItems, List.flatMap_append, List.flatMap_cons, hs, List.append_assoc]
  rfl

/-- The ids of a member between other members. -/
theorem idsOfMembers_append_cons (module suite : String) (h : Host)
    (front : List (String × Member σ)) (m : String × Member σ) (back : List (String × Member σ)) :
    idsOfMembers module suite h (front ++ m :: back) =
      idsOfMembers module suite h front ++ idsOfState module suite (m.1, m.2.state h) ++
        idsOfMembers module suite h back := by
  rw [idsOfMembers, List.flatMap_append, List.flatMap_cons, List.append_assoc]
  rfl

namespace Registry

variable {r : Registry σ} {h : Host}

/-! ## Files -/

/-- **What is discovered in files** are the ids of the cases that their modules offer. -/
theorem discoverFiles_ids {t : FileTree} {modulePath files : List Path} {ids : List TestId}
    (hd : (r.discoverFiles t h modulePath files).ending = .finished ids) :
    ∃ modules, List.Forall₂ (fun f m => moduleOfFile t modulePath f = .ok m) files modules ∧
      ids = (modules.flatMap (r.cases h)).map TestCase.id := by
  obtain ⟨found, hfound, hflat⟩ := Exec.finished_of_bind hd
  cases hflat
  have hall := Exec.finished_of_mapM hfound
  clear hfound hd
  induction hall with
  | nil => exact ⟨[], .nil, rfl⟩
  | cons hfile _ ih =>
    obtain ⟨modules, hmodules, hids⟩ := ih
    obtain ⟨module, hm, hfile⟩ := Exec.finished_of_bind hfile
    refine ⟨module :: modules, .cons (Exec.finished_ofExcept hm) hmodules, ?_⟩
    rw [List.flatten_cons, hids, discoverModule_ids hfile, List.flatMap_cons, List.map_append]

end Registry

/-! ## Distinct names -/

/-- The name of an item that is a suite. -/
def Item.suiteName? : Item σ → Option String
  | .suite s => some s.name
  | _ => none

/-- **Are names distinct**, those of suites within a module and those of members within a suite, and
do they hold no dot? -/
structure Registry.HasDistinctNames (r : Registry σ) : Prop where
  /-- No two suites of a module have the same name. -/
  suites : ∀ m ∈ r.modules, (m.items.filterMap Item.suiteName?).Nodup
  /-- No two members of a suite have the same name. -/
  members : ∀ s, r.HasSuite s → (s.members.map (·.1)).Nodup
  /-- The name of a suite holds no dot. -/
  suiteDots : ∀ s, r.HasSuite s → '.' ∉ s.name.toList
  /-- The name of a member holds no dot. -/
  memberDots : ∀ s, r.HasSuite s → ∀ m ∈ s.members, '.' ∉ m.1.toList

/-- A dotted text is cut before a word without dots. -/
theorem splitAtLastDot_append {before after : String} (h : '.' ∉ after.toList) :
    splitAtLastDot (before ++ "." ++ after) = some (before, after) := by
  rw [splitAtLastDot, String.toList_append, String.toList_append, List.append_assoc,
    show ".".toList = ['.'] from rfl, List.singleton_append, splitLast_append h]
  simp

/-- A suite is found by its name if it is the only one with this name. -/
theorem findSuite?_of_mem {items : List (Item σ)} (hn : (items.filterMap Item.suiteName?).Nodup)
    {s : Suite σ} (hs : Item.suite s ∈ items) : Registry.findSuite? s.name items = some s := by
  induction items with
  | nil => cases hs
  | cons item rest ih =>
    cases item with
    | suite t =>
      rw [List.filterMap_cons_some (show Item.suiteName? (.suite t) = some t.name from rfl),
        List.nodup_cons] at hn
      rcases List.mem_cons.1 hs with hs | hs
      · cases hs
        rw [Registry.findSuite?, if_pos rfl]
      · -- Another suite before it has another name.
        have hne : t.name ≠ s.name := fun he =>
          hn.1 (List.mem_filterMap.2 ⟨_, hs, congrArg some he.symm⟩)
        rw [Registry.findSuite?, if_neg hne, ih hn.2 hs]
    | plainClass n =>
      exact ih hn ((List.mem_cons.1 hs).resolve_left (by simp))
    | value n =>
      exact ih hn ((List.mem_cons.1 hs).resolve_left (by simp))

/-- A member is found by its name if it is the only one with this name. -/
theorem find?_of_mem {members : List (String × α)} (hn : (members.map (·.1)).Nodup)
    {name : String} {a : α} (h : (name, a) ∈ members) :
    members.find? (fun m => m.1 == name) = some (name, a) := by
  induction members with
  | nil => cases h
  | cons m members ih =>
    rw [List.map_cons, List.nodup_cons] at hn
    rcases List.mem_cons.1 h with rfl | h
    · simp
    · have hne : m.1 ≠ name := fun he => hn.1 (List.mem_map.2 ⟨_, h, he.symm⟩)
      rw [List.find?_cons_of_neg (by simpa using hne), ih hn.2 h]

namespace TestCase

variable {r : Registry σ} {h : Host} {c : TestCase σ}

theorem IsOffered.hasSuite (hc : c.IsOffered r h) : r.HasSuite c.suite := by
  obtain ⟨m, hm, hi, -⟩ := hc
  exact ⟨m, Registry.mem_of_loadModule hm, hi⟩

/-- The id of a case ends with the name of its member. -/
theorem IsOffered.splitAtLastDot_id (hc : c.IsOffered r h) (hn : r.HasDistinctNames) :
    splitAtLastDot c.id.text = some (c.module ++ "." ++ c.suite.name, c.method) := by
  obtain ⟨m, hm, hi, -, member, hmem, -⟩ := hc
  exact splitAtLastDot_append
    (hn.memberDots _ ⟨m, Registry.mem_of_loadModule hm, hi⟩ _ hmem)

/-- **The suite with the path of the id is that of the case.** -/
theorem IsOffered.loadSuite_eq (hc : c.IsOffered r h) (hn : r.HasDistinctNames) :
    r.loadSuite (c.module ++ "." ++ c.suite.name) = .ok (c.module, c.suite) := by
  have hs := hn.suiteDots _ hc.hasSuite
  obtain ⟨m, hm, hi, -⟩ := hc
  rw [Registry.loadSuite, splitAtLastDot_append hs]
  simp only [hm, Bind.bind, Except.bind,
    findSuite?_of_mem (hn.suites m (Registry.mem_of_loadModule hm)) hi]

/-- **An id tells its case.** -/
theorem IsOffered.id_injective {d : TestCase σ} (hc : c.IsOffered r h) (hd : d.IsOffered r h)
    (hn : r.HasDistinctNames) (he : c.id = d.id) : c = d := by
  have hsplit := hc.splitAtLastDot_id hn
  rw [he, hd.splitAtLastDot_id hn, Option.some.injEq, Prod.mk.injEq] at hsplit
  have hsuite := hc.loadSuite_eq hn
  rw [← hsplit.1, hd.loadSuite_eq hn, Except.ok.injEq, Prod.mk.injEq] at hsuite
  obtain ⟨module, suite, method⟩ := c
  obtain ⟨module', suite', method'⟩ := d
  obtain ⟨rfl, rfl⟩ := hsuite
  obtain rfl := hsplit.2
  rfl

/-- **The body of a case is at hand**: what was callable when it was inspected is callable again. -/
theorem IsOffered.bind_finished (hc : c.IsOffered r h) (hn : r.HasDistinctNames) :
    ∃ b, (c.suite.bind c.module h c.method).ending = .finished b := by
  have hs := hn.members _ hc.hasSuite
  obtain ⟨m, -, -, ha, member, hmem, -, hst⟩ := hc
  rw [Suite.bind, ha, if_neg Bool.false_ne_true, find?_of_mem hs hmem]
  cases member with
  | method body => exact ⟨body, rfl⟩
  | value => cases hst
  | getter resolve =>
    rw [Member.state] at hst
    cases he : (resolve h).ending with
    | finished b => exact ⟨b, Act.finished_resolved_iff.2 he⟩
    | failed | panicked | exited => rw [he] at hst; cases hst

end TestCase

namespace Registry

variable {r : Registry σ} {h : Host}

/-- A case of an item belongs to the suite that the item is. -/
theorem eq_suite_of_mem_cases {module : String} {item : Item σ} {c : TestCase σ}
    (hc : c ∈ item.cases module h) : item = .suite c.suite := by
  cases item with
  | plainClass n => cases hc
  | value n => cases hc
  | suite s =>
    rw [Item.cases, Suite.cases] at hc
    split_ifs at hc
    · cases hc
    · obtain ⟨m, -, rfl⟩ := List.mem_map.1 hc
      rfl

/-- **A module offers every case once.** -/
theorem nodup_cases (hn : r.HasDistinctNames) (module : String) : (r.cases h module).Nodup := by
  unfold cases
  cases hm : r.loadModule module with
  | error e => exact List.nodup_nil
  | ok m =>
    have hmem := mem_of_loadModule hm
    have hsuites := hn.suites m hmem
    rw [List.nodup_iff_pairwise_ne, List.pairwise_filterMap] at hsuites
    refine List.nodup_flatMap.2 ⟨fun item hi => ?_, hsuites.imp ?_⟩
    · cases item with
      | plainClass n => exact List.nodup_nil
      | value n => exact List.nodup_nil
      | suite s =>
        rw [Item.cases, Suite.cases]
        split_ifs
        · exact List.nodup_nil
        · -- Members with different names make different cases.
          refine List.Nodup.map_on ?_ ((List.Nodup.of_map _ (hn.members s ⟨m, hmem, hi⟩)).filter _)
          intro a ha b hb he
          exact List.inj_on_of_nodup_map (hn.members s ⟨m, hmem, hi⟩) (List.mem_filter.1 ha).1
            (List.mem_filter.1 hb).1 (congrArg TestCase.method he)
    · -- So do suites with different names.
      intro a b hab c hca hcb
      rw [eq_suite_of_mem_cases hca, eq_suite_of_mem_cases hcb] at hab
      exact hab _ rfl _ rfl rfl

end Registry

end SuitePool
