import Mathlib.Data.List.Induction
import Mathlib.Data.List.Nodup
import Mathlib.Data.List.Pairwise
import Mathlib.Tactic.Common
import SuitePool.Proofs.Cases.Discovered
import SuitePool.Proofs.Cases.Stages

/-!
# The members that ids are bound to

Discovery goes through all suites of a module and all members of each, while an id is bound to the
first member of its name, in the first suite of the suite's name.  A name can be registered more
than once, in one module or by extending it, and then the two need not agree.  They do exactly where
every member that is discovered comes first: then each id is bound to the very member that it was
discovered for.  Otherwise some id is discovered twice, or cannot be bound at all.

## Main definitions

* `Registry.build`, `registered`: a registry made by a sequence of registrations.
* `Member.body?`: the body that a member stands for.
* `Registry.bodyOf`: the body that an id is bound to.
* `IsListed`: a member that is discovered.
* `ListsFirst`: every member that is discovered comes first.

## Main results

* `Registry.loadModule_build_eq_ok_iff`: a module holds all that was registered under its name.
* `Registry.nodup_ids_of_listsFirst`, `Registry.bodyOf_of_listsFirst`,
  `Registry.listsFirst_of_bound`
* `Registry.discovered_bound_iff`
-/

namespace SuitePool

open Text

variable {σ ε α β : Type}

/-! ## Registering -/

/-- **The items that are registered** under a name, in the order of the registrations. -/
def registered (calls : List (String × List (Item σ))) (name : String) : List (Item σ) :=
  (calls.filter fun c => c.1 = name).flatMap (·.2)

/-- **The registry that registrations make**, each of some items of a module. -/
def Registry.build (root : Path) (calls : List (String × List (Item σ))) : Registry σ :=
  calls.foldl (fun r c => r.extend c.1 c.2) (.empty root)

theorem find?_extendModules_of_ne {name other : String} (hne : other ≠ name)
    (items : List (Item σ)) (modules : List (Module σ)) :
    (extendModules name items modules).find? (fun m => m.name == other) =
      modules.find? fun m => m.name == other := by
  induction modules with
  | nil => simp [extendModules, hne.symm]
  | cons m rest ih =>
    rw [extendModules]
    split_ifs with hm
    · have hm' : (m.name == other) = false := by simpa [hm] using hne.symm
      rw [List.find?_cons_of_neg (by simpa using hne.symm), List.find?_cons_of_neg (by simp [hm'])]
    · rw [List.find?_cons, List.find?_cons, ih]

theorem find?_extendModules_self (name : String) (items : List (Item σ))
    (modules : List (Module σ)) :
    (extendModules name items modules).find? (fun m => m.name == name) =
      some ⟨name, ((modules.find? fun m => m.name == name).elim [] Module.items) ++ items⟩ := by
  induction modules with
  | nil => simp [extendModules]
  | cons m rest ih =>
    rw [extendModules]
    split_ifs with hm
    · rw [List.find?_cons_of_pos (by simp), List.find?_cons_of_pos (by simpa using hm)]
      rfl
    · rw [List.find?_cons_of_neg (by simpa using hm), List.find?_cons_of_neg (by simpa using hm),
        ih]

section Build

variable (root : Path) (calls : List (String × List (Item σ))) (name : String)

theorem modules_build_append (c : String × List (Item σ)) :
    (Registry.build root (calls ++ [c])).modules =
      extendModules c.1 c.2 (Registry.build root calls).modules := by
  rw [Registry.build, List.foldl_append]
  rfl

theorem registered_append (more : List (String × List (Item σ))) :
    registered (calls ++ more) name = registered calls name ++ registered more name := by
  rw [registered, List.filter_append, List.flatMap_append]
  rfl

theorem isSome_find?_build :
    ((Registry.build root calls).modules.find? fun m => m.name == name).isSome ↔
      name ∈ calls.map (·.1) := by
  induction calls using List.reverseRecOn with
  | nil => simp [Registry.build, Registry.empty]
  | append_singleton calls c ih =>
    rw [modules_build_append, List.map_append, List.mem_append, ← ih]
    by_cases hc : c.1 = name
    · subst hc
      simp [find?_extendModules_self]
    · rw [find?_extendModules_of_ne (Ne.symm hc)]
      simp [Ne.symm hc]

theorem items_find?_build :
    ((Registry.build root calls).modules.find? fun m => m.name == name).elim [] Module.items =
      registered calls name := by
  induction calls using List.reverseRecOn with
  | nil => rfl
  | append_singleton calls c ih =>
    rw [modules_build_append, registered_append]
    by_cases hc : c.1 = name
    · subst hc
      rw [find?_extendModules_self, ih]
      simp [registered]
    · rw [find?_extendModules_of_ne (Ne.symm hc), ih]
      simp [registered, hc]

/-- **A module holds all that was registered under its name.** -/
theorem Registry.loadModule_build_eq_ok_iff {m : Module σ} :
    (build root calls).loadModule name = .ok m ↔
      name ∈ calls.map (·.1) ∧ m = ⟨name, registered calls name⟩ := by
  rw [← isSome_find?_build root, ← items_find?_build root, loadModule]
  cases hf : (build root calls).modules.find? (fun m => m.name == name) with
  | none => simp
  | some n =>
    obtain ⟨name', items⟩ := n
    have hn : name' = name := by simpa using List.find?_some hf
    subst hn
    simp [eq_comm]

end Build

/-! ## Bodies -/

/-- **The body that a member stands for** in a process, if it stands for one. -/
def Member.body? (h : Host) : Member σ → Option (Body σ)
  | .method b => some b
  | .value => none
  | .getter resolve =>
    match (resolve h).ending with
    | .finished b => some b
    | _ => none

/-- What is callable stands for a body. -/
theorem Member.state_eq_callable_iff {h : Host} {m : Member σ} :
    m.state h = .callable ↔ ∃ b, m.body? h = some b := by
  cases m with
  | method b => simp [state, body?]
  | value => simp [state, body?]
  | getter resolve =>
    simp only [state, body?]
    cases (resolve h).ending <;> simp

/-- **The body that a method of a suite is bound to** is that of the first member of its name. -/
theorem Suite.finished_bind_iff {s : Suite σ} {module : String} {h : Host} {method : String}
    {b : Body σ} :
    (s.bind module h method).ending = .finished b ↔ s.isAbstract = false ∧
      ∃ m, s.members.find? (fun m => m.1 == method) = some m ∧ m.2.body? h = some b := by
  rw [bind]
  cases ha : s.isAbstract with
  | true =>
    constructor
    · intro h
      cases h
    · rintro ⟨h, -⟩
      cases h
  | false =>
    rw [if_neg Bool.false_ne_true]
    cases hf : s.members.find? (fun m => m.1 == method) with
    | none =>
      constructor
      · intro h
        cases h
      · rintro ⟨-, _, h, -⟩
        cases h
    | some m =>
      obtain ⟨name, member⟩ := m
      simp only [Option.some.injEq, exists_eq_left', true_and]
      cases member with
      | method body => simp [pure, Exec.ofEnding, Member.body?]
      | value =>
        constructor
        · intro h
          cases h
        · intro h
          cases h
      | getter resolve =>
        rw [Act.finished_resolved_iff, Member.body?]
        cases (resolve h).ending <;> simp

/-- **The body that an id is bound to.** -/
def Registry.bodyOf (r : Registry σ) (h : Host) (id : TestId) : Exec Error (Body σ) := do
  let (module, suite) ← Exec.ofExcept (r.suiteOf id)
  suite.bind module h (id.method?.getD "")

/-! ## First places -/

/-- The suite of a name that is found comes behind none of that name. -/
theorem findSuite?_eq_some_iff {name : String} {items : List (Item σ)} {s : Suite σ} :
    Registry.findSuite? name items = some s ↔ s.name = name ∧
      ∃ before after, items = before ++ .suite s :: after ∧
        ∀ t, Item.suite t ∈ before → t.name ≠ name := by
  have hskip (item : Item σ) (rest : List (Item σ)) (hitem : ∀ t, item = .suite t → t.name ≠ name)
      (ih : Registry.findSuite? name rest = some s ↔ s.name = name ∧
        ∃ before after, rest = before ++ .suite s :: after ∧
          ∀ t, Item.suite t ∈ before → t.name ≠ name) :
      Registry.findSuite? name rest = some s ↔ s.name = name ∧
        ∃ before after, item :: rest = before ++ .suite s :: after ∧
          ∀ t, Item.suite t ∈ before → t.name ≠ name := by
    rw [ih]
    refine and_congr_right fun hs => ⟨?_, ?_⟩
    · rintro ⟨before, after, rfl, hb⟩
      refine ⟨item :: before, after, rfl, fun t ht => ?_⟩
      rcases List.mem_cons.1 ht with ht | ht
      · exact hitem t ht.symm
      · exact hb t ht
    · rintro ⟨before, after, he, hb⟩
      cases before with
      | nil =>
        cases he
        exact absurd hs (hitem s rfl)
      | cons other before =>
        cases he
        exact ⟨before, after, rfl, fun t ht => hb t (List.mem_cons_of_mem _ ht)⟩
  induction items with
  | nil => simp [Registry.findSuite?]
  | cons item rest ih =>
    cases item with
    | plainClass n => exact hskip _ rest (by simp) ih
    | value n => exact hskip _ rest (by simp) ih
    | suite t =>
      rw [Registry.findSuite?]
      split_ifs with ht
      · constructor
        · rintro ⟨⟩
          exact ⟨ht, [], rest, rfl, by simp⟩
        · rintro ⟨hs, before, after, he, hb⟩
          cases before with
          | nil => cases he; rfl
          | cons other before =>
            cases he
            exact absurd ht (hb t (List.mem_cons_self ..))
      · exact hskip _ rest (fun u hu => by cases hu; exact ht) ih

/-- Of two elements in their order, the second stands behind every place that the first does not
precede; what that place yields the second one does not, if nothing is yielded twice. -/
theorem not_mem_of_nodup_flatMap {f : α → List β} {before after : List α} {a b c : α} {x : β}
    (hn : ((before ++ c :: after).flatMap f).Nodup) (hc : x ∈ f c)
    (hsub : [a, b].Sublist (before ++ c :: after)) (ha : a ∉ before) : x ∉ f b := by
  have hb : b ∈ after := by
    obtain ⟨front, back, he, hfront, hback⟩ := List.sublist_append_iff.1 hsub
    cases front with
    | nil =>
      rw [List.nil_append] at he
      rw [← he] at hback
      exact List.singleton_sublist.1 (by simpa using hback.tail)
    | cons d front =>
      rw [List.cons_append, List.cons.injEq] at he
      exact absurd (hfront.subset (he.1 ▸ List.mem_cons_self ..)) ha
  rw [List.flatMap_append, List.flatMap_cons] at hn
  intro hx
  exact (List.nodup_append.1 (List.nodup_append.1 hn).2.1).2.2 x hc x
    (List.mem_flatMap.2 ⟨b, hb, hx⟩) rfl

/-! ## Members that are discovered -/

/-- **Is a member discovered** among items of a module?  Its suite is not abstract, its name
announces a test, and it is callable. -/
structure IsListed (h : Host) (items : List (Item σ)) (s : Suite σ) (m : String × Member σ) :
    Prop where
  suite_mem : Item.suite s ∈ items
  concrete : s.isAbstract = false
  mem : m ∈ s.members
  announced : announcesTest m.1 = true
  callable : m.2.state h = .callable

/-- **Does every member that is discovered come first?** -/
structure ListsFirst (h : Host) (items : List (Item σ)) : Prop where
  /-- No suite in which a member is discovered comes behind another suite of its name. -/
  suites : items.Pairwise fun a b => ∀ t s m, a = .suite t → b = .suite s →
    IsListed h items s m → t.name ≠ s.name
  /-- No member that is discovered comes behind another member of its name in its suite. -/
  members : ∀ s, Item.suite s ∈ items →
    s.members.Pairwise fun a b => IsListed h items s b → a.1 ≠ b.1

theorem mem_idsOfState_iff {module suite name : String} {state : MemberState} {id : TestId} :
    id ∈ idsOfState module suite (name, state) ↔
      (announcesTest name = true ∧ state = .callable) ∧ id = .ofParts module suite name := by
  rw [idsOfState]
  split_ifs with hm <;> simp_all

theorem IsListed.mem_idsOfState {h : Host} {items : List (Item σ)} {s : Suite σ}
    {m : String × Member σ} (hm : IsListed h items s m) (module : String) :
    TestId.ofParts module s.name m.1 ∈ idsOfState module s.name (m.1, m.2.state h) :=
  mem_idsOfState_iff.2 ⟨⟨hm.announced, hm.callable⟩, rfl⟩

/-- The ids of an item are those of its members that are discovered. -/
theorem mem_ids_item_iff {module : String} {h : Host} {items : List (Item σ)} {s : Suite σ}
    (hs : Item.suite s ∈ items) {id : TestId} :
    id ∈ (Item.cases module h (.suite s)).map TestCase.id ↔
      ∃ m, IsListed h items s m ∧ id = .ofParts module s.name m.1 := by
  cases ha : s.isAbstract with
  | true =>
    simp only [Item.cases, Suite.cases, ha, if_true, List.map_nil, List.not_mem_nil, false_iff]
    rintro ⟨m, hm, -⟩
    exact absurd hm.concrete (by simp [ha])
  | false =>
    rw [Item.cases, ← Suite.flatMap_ids ha, List.mem_flatMap]
    simp only [mem_idsOfState_iff]
    constructor
    · rintro ⟨m, hm, ⟨hann, hc⟩, rfl⟩
      exact ⟨m, ⟨hs, ha, hm, hann, hc⟩, rfl⟩
    · rintro ⟨m, hm, rfl⟩
      exact ⟨m, hm.mem, ⟨hm.announced, hm.callable⟩, rfl⟩

theorem IsListed.mem_ids_item {h : Host} {items : List (Item σ)} {s : Suite σ}
    {m : String × Member σ} (hm : IsListed h items s m) (module : String) :
    TestId.ofParts module s.name m.1 ∈ (Item.cases module h (.suite s)).map TestCase.id :=
  (mem_ids_item_iff hm.suite_mem).2 ⟨m, hm, rfl⟩

theorem mem_idsOfItems_iff {module : String} {h : Host} {items : List (Item σ)} {id : TestId} :
    id ∈ idsOfItems module h items ↔
      ∃ s m, IsListed h items s m ∧ id = .ofParts module s.name m.1 := by
  rw [idsOfItems, List.mem_flatMap]
  constructor
  · rintro ⟨item, hi, hid⟩
    cases item with
    | suite s =>
      obtain ⟨m, hm⟩ := (mem_ids_item_iff hi).1 hid
      exact ⟨s, m, hm⟩
    | plainClass n => cases hid
    | value n => cases hid
  · rintro ⟨s, m, hm, rfl⟩
    exact ⟨.suite s, hm.suite_mem, hm.mem_ids_item module⟩

/-! ## Ids of one module -/

/-- An id is cut in front of its member. -/
theorem TestId.splitAtLastDot_ofParts (module suite : String) {name : String}
    (hn : '.' ∉ name.toList) :
    splitAtLastDot (TestId.ofParts module suite name).text = some (module ++ "." ++ suite, name) :=
  splitAtLastDot_append hn

/-- An id of a module tells the names of suite and member. -/
theorem TestId.ofParts_injective {module suite suite' name name' : String}
    (hn : '.' ∉ name.toList) (hn' : '.' ∉ name'.toList)
    (h : TestId.ofParts module suite name = .ofParts module suite' name') :
    suite = suite' ∧ name = name' := by
  have hsplit := splitAtLastDot_ofParts module suite hn
  rw [h, splitAtLastDot_ofParts module suite' hn', Option.some.injEq, Prod.mk.injEq] at hsplit
  exact ⟨(String.append_right_inj _).1 hsplit.1.symm, hsplit.2.symm⟩

/-- Are the names of suites and members identifiers? -/
structure Registry.HasIdentifierNames (r : Registry σ) : Prop where
  suites : ∀ s, r.HasSuite s → isIdentifier s.name.toList = true
  members : ∀ s, r.HasSuite s → ∀ m ∈ s.members, isIdentifier m.1.toList = true

/-- **Does each getter resolve** in the second process as it does in the first? -/
def Registry.ResolvesSame (r : Registry σ) (h h' : Host) : Prop :=
  ∀ s, r.HasSuite s → ∀ name resolve, (name, .getter resolve) ∈ s.members →
    (resolve h').ending = (resolve h).ending

/-- A getter that resolves the same way stands for the same body. -/
theorem Registry.ResolvesSame.body?_eq {r : Registry σ} {h h' : Host} (hr : r.ResolvesSame h h')
    {s : Suite σ} (hs : r.HasSuite s) {m : String × Member σ} (hm : m ∈ s.members) :
    m.2.body? h' = m.2.body? h := by
  obtain ⟨name, member⟩ := m
  cases member with
  | method b => rfl
  | value => rfl
  | getter resolve => rw [Member.body?, Member.body?, hr s hs name resolve hm]

section Module

variable {r : Registry σ} {h h' : Host} {module : String} {m : Module σ}

/-- The suite of an id of a module is the first one of its name. -/
theorem Registry.suiteOf_ofParts (hm : r.loadModule module = .ok m) {suite name : String}
    (hs : '.' ∉ suite.toList) (hn : '.' ∉ name.toList) {found : String × Suite σ} :
    r.suiteOf (.ofParts module suite name) = .ok found ↔
      module = found.1 ∧ findSuite? suite m.items = some found.2 := by
  have hpath : (TestId.ofParts module suite name).suitePath? = some (module ++ "." ++ suite) := by
    rw [TestId.suitePath?, TestId.splitAtLastDot_ofParts module suite hn, Option.map_some]
  rw [suiteOf, hpath]
  simp only [loadSuite, splitAtLastDot_append hs, hm, Bind.bind, Except.bind]
  cases findSuite? suite m.items with
  | none => simp
  | some s => simp [Prod.ext_iff, eq_comm]

/-- **What an id of a module is bound to**: the first member of its name, in the first suite of the
suite's name. -/
theorem Registry.finished_bodyOf_iff (hm : r.loadModule module = .ok m) {suite name : String}
    (hs : '.' ∉ suite.toList) (hn : '.' ∉ name.toList) {b : Body σ} :
    (r.bodyOf h (.ofParts module suite name)).ending = .finished b ↔
      ∃ s, findSuite? suite m.items = some s ∧ s.isAbstract = false ∧
        ∃ a, s.members.find? (fun m => m.1 == name) = some a ∧ a.2.body? h = some b := by
  have hmethod : (TestId.ofParts module suite name).method? = some name := by
    rw [TestId.method?, TestId.splitAtLastDot_ofParts module suite hn, Option.map_some]
  rw [bodyOf, Exec.finished_bind_iff]
  constructor
  · rintro ⟨⟨module', s⟩, hfound, hbind⟩
    obtain ⟨-, hs'⟩ := (suiteOf_ofParts hm hs hn).1 (Exec.finished_ofExcept hfound)
    rw [hmethod] at hbind
    exact ⟨s, hs', Suite.finished_bind_iff.1 hbind⟩
  · rintro ⟨s, hs', hbind⟩
    refine ⟨(module, s), ?_, ?_⟩
    · have hfound : r.suiteOf (.ofParts module suite name) = .ok (module, s) :=
        (suiteOf_ofParts hm hs hn).2 ⟨rfl, hs'⟩
      rw [hfound]
      rfl
    · rw [hmethod]
      exact Suite.finished_bind_iff.2 hbind

end Module

/-! ## Bound to the very member -/

section Bound

variable {r : Registry σ} {h h' : Host} {module : String} {m : Module σ}

theorem Registry.hasSuite_of_mem (hm : r.loadModule module = .ok m) {s : Suite σ}
    (hs : Item.suite s ∈ m.items) : r.HasSuite s :=
  ⟨m, mem_of_loadModule hm, hs⟩

theorem Registry.HasIdentifierNames.suite_dot (hnames : r.HasIdentifierNames) {s : Suite σ}
    (hs : r.HasSuite s) : '.' ∉ s.name.toList :=
  dot_not_mem_of_isIdentifier (hnames.suites s hs)

theorem Registry.HasIdentifierNames.member_dot (hnames : r.HasIdentifierNames) {s : Suite σ}
    (hs : r.HasSuite s) {a : String × Member σ} (ha : a ∈ s.members) : '.' ∉ a.1.toList :=
  dot_not_mem_of_isIdentifier (hnames.members s hs a ha)

/-- **No id is discovered twice** where every member that is discovered comes first. -/
theorem Registry.nodup_ids_of_listsFirst (hm : r.loadModule module = .ok m)
    (hnames : r.HasIdentifierNames) (hfirst : ListsFirst h m.items) :
    (idsOfItems module h m.items).Nodup := by
  have hinjective {s t : Suite σ} {a b : String × Member σ} {id : TestId}
      (hs : Item.suite s ∈ m.items) (ha : a ∈ s.members) (ht : Item.suite t ∈ m.items)
      (hb : b ∈ t.members) (hida : id = .ofParts module s.name a.1)
      (hidb : id = .ofParts module t.name b.1) : s.name = t.name ∧ a.1 = b.1 :=
    TestId.ofParts_injective (hnames.member_dot (hasSuite_of_mem hm hs) ha)
      (hnames.member_dot (hasSuite_of_mem hm ht) hb) (hida.symm.trans hidb)
  refine List.nodup_flatMap.2 ⟨fun item hi => ?_, hfirst.suites.imp_of_mem ?_⟩
  · cases item with
    | plainClass n => exact List.nodup_nil
    | value n => exact List.nodup_nil
    | suite s =>
      cases ha : s.isAbstract with
      | true => simp [Item.cases, Suite.cases, ha]
      | false =>
        rw [Item.cases, ← Suite.flatMap_ids ha]
        refine List.nodup_flatMap.2 ⟨fun a _ => ?_, (hfirst.members s hi).imp_of_mem ?_⟩
        · rw [idsOfState]
          split_ifs <;> simp
        · -- Members of different names have different ids.
          intro a b hmema hmemb hab id hida hidb
          obtain ⟨-, hida⟩ := mem_idsOfState_iff.1 hida
          obtain ⟨⟨hann, hc⟩, hidb⟩ := mem_idsOfState_iff.1 hidb
          exact hab ⟨hi, ha, hmemb, hann, hc⟩ (hinjective hi hmema hi hmemb hida hidb).2
  · -- So do suites of different names.
    intro item item' hi hi' hne id hid hid'
    cases item with
    | plainClass n => cases hid
    | value n => cases hid
    | suite t =>
      cases item' with
      | plainClass n => cases hid'
      | value n => cases hid'
      | suite s =>
        obtain ⟨a, ha, hida⟩ := (mem_ids_item_iff hi).1 hid
        obtain ⟨b, hb, hidb⟩ := (mem_ids_item_iff hi').1 hid'
        exact hne t s b rfl rfl hb (hinjective hi ha.mem hi' hb.mem hida hidb).1

/-- The suite of a member that is discovered is found. -/
theorem IsListed.findSuite?_eq
    (hsuites : m.items.Pairwise fun x y => ∀ t s a, x = .suite t → y = .suite s →
      IsListed h m.items s a → t.name ≠ s.name)
    {s : Suite σ} {a : String × Member σ} (ha : IsListed h m.items s a) :
    Registry.findSuite? s.name m.items = some s := by
  obtain ⟨before, after, hitems⟩ := List.append_of_mem ha.suite_mem
  refine findSuite?_eq_some_iff.2 ⟨rfl, before, after, hitems, fun t ht => ?_⟩
  rw [hitems, List.pairwise_append] at hsuites
  rw [← hitems] at hsuites
  exact hsuites.2.2 _ ht _ (List.mem_cons_self ..) t s a rfl rfl ha

/-- So is the member. -/
theorem IsListed.find?_eq (hfirst : ListsFirst h m.items) {s : Suite σ} {a : String × Member σ}
    (ha : IsListed h m.items s a) : s.members.find? (fun b => b.1 == a.1) = some a := by
  obtain ⟨front, back, hmembers⟩ := List.append_of_mem ha.mem
  rw [List.find?_eq_some_iff_append]
  refine ⟨by simp, front, back, hmembers, fun b hb => ?_⟩
  have hpair := hfirst.members s ha.suite_mem
  rw [hmembers, List.pairwise_append] at hpair
  have hne := hpair.2.2 b hb a (List.mem_cons_self ..) ha
  simpa using hne

/-- **An id is bound to the very member that it was discovered for** where every member that is
discovered comes first. -/
theorem Registry.bodyOf_of_listsFirst (hm : r.loadModule module = .ok m)
    (hnames : r.HasIdentifierNames) (hsame : r.ResolvesSame h h') (hfirst : ListsFirst h m.items)
    {s : Suite σ} {a : String × Member σ} (ha : IsListed h m.items s a) :
    r.suiteOf (.ofParts module s.name a.1) = .ok (module, s) ∧
      ∃ b, a.2.body? h = some b ∧
        (r.bodyOf h' (.ofParts module s.name a.1)).ending = .finished b := by
  have hs := hasSuite_of_mem hm ha.suite_mem
  have hsuite := hnames.suite_dot hs
  have hmember := hnames.member_dot hs ha.mem
  obtain ⟨b, hb⟩ := Member.state_eq_callable_iff.1 ha.callable
  refine ⟨(suiteOf_ofParts hm hsuite hmember).2 ⟨rfl, ha.findSuite?_eq hfirst.suites⟩, b, hb, ?_⟩
  refine (finished_bodyOf_iff hm hsuite hmember).2
    ⟨s, ha.findSuite?_eq hfirst.suites, ha.concrete, a, ha.find?_eq hfirst, ?_⟩
  rw [hsame.body?_eq hs ha.mem, hb]

/-- **Every member that is discovered comes first** if no id is discovered twice and each can be
bound: what an id is bound to is discovered too, so it is the member that has this id. -/
theorem Registry.listsFirst_of_bound (hm : r.loadModule module = .ok m)
    (hnames : r.HasIdentifierNames) (hsame : r.ResolvesSame h h')
    (hnodup : (idsOfItems module h m.items).Nodup)
    (hbound : ∀ id ∈ idsOfItems module h m.items, ∃ b, (r.bodyOf h' id).ending = .finished b) :
    ListsFirst h m.items := by
  -- What is found for a member that is discovered, is discovered with the same id.
  have hfound {s : Suite σ} {a : String × Member σ} (ha : IsListed h m.items s a) :
      ∃ t c, findSuite? s.name m.items = some t ∧ t.name = s.name ∧
        t.members.find? (fun b => b.1 == a.1) = some c ∧ c.1 = a.1 ∧ IsListed h m.items t c := by
    have hs := hasSuite_of_mem hm ha.suite_mem
    obtain ⟨b, hb⟩ := hbound _ (mem_idsOfItems_iff.2 ⟨s, a, ha, rfl⟩)
    obtain ⟨t, ht, hconcrete, c, hc, hbody⟩ := (finished_bodyOf_iff hm (hnames.suite_dot hs)
      (hnames.member_dot hs ha.mem)).1 hb
    have hmem := mem_of_findSuite? ht
    have hcmem := List.mem_of_find?_eq_some hc
    have hname : c.1 = a.1 := by simpa using List.find?_some hc
    rw [hsame.body?_eq (hasSuite_of_mem hm hmem) hcmem] at hbody
    exact ⟨t, c, ht, (findSuite?_eq_some_iff.1 ht).1, hc, hname, hmem, hconcrete, hcmem,
      hname ▸ ha.announced, Member.state_eq_callable_iff.2 ⟨b, hbody⟩⟩
  have hsuites : m.items.Pairwise fun x y => ∀ t s a, x = .suite t → y = .suite s →
      IsListed h m.items s a → t.name ≠ s.name := by
    rw [List.pairwise_iff_forall_sublist]
    rintro x y hsub t s a rfl rfl ha hname
    obtain ⟨t', c, ht', hname', -, hc, hlisted⟩ := hfound ha
    -- The suite that is found stands before the other one, and both have the id.
    obtain ⟨-, before, after, hitems, hbefore⟩ := findSuite?_eq_some_iff.1 ht'
    have hid := hlisted.mem_ids_item module
    have hid' := ha.mem_ids_item module
    rw [hname', hc] at hid
    rw [idsOfItems, hitems] at hnodup
    rw [hitems] at hsub
    exact not_mem_of_nodup_flatMap hnodup hid hsub (fun hmem => hbefore t hmem hname) hid'
  refine ⟨hsuites, fun s hs => ?_⟩
  rw [List.pairwise_iff_forall_sublist]
  intro x y hsub ha hname
  obtain ⟨t, c, ht, -, hfind, hc, hlisted⟩ := hfound ha
  obtain rfl : s = t := Option.some.inj ((ha.findSuite?_eq hsuites).symm.trans ht)
  -- Within the suite, the member that is found stands before the other one.
  obtain ⟨-, front, back, hmembers, hfront⟩ := List.find?_eq_some_iff_append.1 hfind
  have hid := hlisted.mem_idsOfState module
  have hid' := ha.mem_idsOfState module
  have hnodup' := (List.nodup_flatMap.1 hnodup).1 _ hs
  rw [Item.cases, ← Suite.flatMap_ids ha.concrete, hmembers] at hnodup'
  have hids : TestId.ofParts module s.name c.1 = .ofParts module s.name y.1 := by rw [hc]
  rw [hids] at hid
  rw [hmembers] at hsub
  exact not_mem_of_nodup_flatMap hnodup' hid hsub
    (fun hmem => by simpa [hname] using hfront x hmem) hid'

end Bound

/-! ## Registered names -/

/-- **The members that discovered ids are bound to**, in a registry made by any registrations.  If
every member that is discovered comes first, then no id is discovered twice, and each is bound to
the very member that it was discovered for, in its suite.  And every member that is discovered comes
first if no id is discovered twice and each can be bound. -/
theorem Registry.discovered_bound_iff {root : Path} {calls : List (String × List (Item σ))}
    {h h' : Host} {module : String} {ids : List TestId}
    (hnames : (build root calls).HasIdentifierNames)
    (hsame : (build root calls).ResolvesSame h h')
    (hd : ((build root calls).discoverModule h module).ending = .finished ids) :
    (∀ id, id ∈ ids ↔
      ∃ s a, IsListed h (registered calls module) s a ∧ id = .ofParts module s.name a.1) ∧
    (ListsFirst h (registered calls module) →
      ids.Nodup ∧ ∀ s a, IsListed h (registered calls module) s a →
        (build root calls).suiteOf (.ofParts module s.name a.1) = .ok (module, s) ∧
          ∃ b, a.2.body? h = some b ∧
            ((build root calls).bodyOf h' (.ofParts module s.name a.1)).ending = .finished b) ∧
    (ids.Nodup → (∀ id ∈ ids, ∃ b, ((build root calls).bodyOf h' id).ending = .finished b) →
      ListsFirst h (registered calls module)) := by
  obtain ⟨m, hm, -⟩ := Exec.finished_of_bind hd
  replace hm := Exec.finished_ofExcept hm
  obtain ⟨-, rfl⟩ := (loadModule_build_eq_ok_iff root calls module).1 hm
  obtain rfl := discoverModule_ids hd
  rw [ids_cases hm]
  exact ⟨fun id => mem_idsOfItems_iff,
    fun hfirst => ⟨nodup_ids_of_listsFirst hm hnames hfirst,
      fun s a ha => bodyOf_of_listsFirst hm hnames hsame hfirst ha⟩,
    listsFirst_of_bound hm hnames hsame⟩

/-! ## A module that is extended -/

/-- A suite with one test. -/
def singleSuite (name : String) (isAbstract : Bool) : Suite Unit where
  name := name
  isAbstract := isAbstract
  construct := fun _ => .ofEnding (.finished ())
  setUp := fun _ x => (x, .ofEnding (.finished ()))
  tearDown := fun _ x => (x, .ofEnding (.finished ()))
  members := [("test_one", .method fun _ x => (x, .ofEnding (.finished ())))]

/-- An abstract suite, and behind it a suite that extends the module. -/
def extendingCalls (base : String) : List (String × List (Item Unit)) :=
  [("m", [.suite (singleSuite base true)]), ("m", [.suite (singleSuite "Solo" false)])]

def extendedRegistry (base : String) : Registry Unit :=
  .build (.ofString "/pkg") (extendingCalls base)

theorem hasSuite_extendedRegistry {base : String} {s : Suite Unit}
    (hs : (extendedRegistry base).HasSuite s) :
    s = singleSuite base true ∨ s = singleSuite "Solo" false := by
  obtain ⟨m, hm, hs⟩ := hs
  rw [List.mem_singleton.1 hm] at hs
  have hitems : s = singleSuite base true ∨ s ∈ [singleSuite "Solo" false] := by
    simpa [registered, extendingCalls] using hs
  exact hitems.imp_right List.mem_singleton.1

theorem hasIdentifierNames_extendedRegistry {base : String}
    (hbase : isIdentifier base.toList = true) : (extendedRegistry base).HasIdentifierNames where
  suites := fun s hs => by
    rcases hasSuite_extendedRegistry hs with rfl | rfl
    · exact hbase
    · decide +kernel
  members := fun s hs m hm => by
    rcases hasSuite_extendedRegistry hs with rfl | rfl <;>
      (rw [List.mem_singleton.1 hm]; decide +kernel)

theorem resolvesSame_extendedRegistry (base : String) (h h' : Host) :
    (extendedRegistry base).ResolvesSame h h' := by
  intro s hs name resolve hm
  rcases hasSuite_extendedRegistry hs with rfl | rfl <;>
    exact absurd (List.mem_singleton.1 hm) (by simp)

/-- The abstract suite has a name of its own, and the test that extends the module is bound. -/
theorem Registry.discovered_bound_extended :
    ((extendedRegistry "Base").discoverModule ⟨none⟩ "m").ending =
        .finished [.ofParts "m" "Solo" "test_one"] ∧
      ∃ b, ((extendedRegistry "Base").bodyOf ⟨some "1"⟩ (.ofParts "m" "Solo" "test_one")).ending =
        .finished b := by
  have hd : ((extendedRegistry "Base").discoverModule ⟨none⟩ "m").ending =
      .finished [.ofParts "m" "Solo" "test_one"] := by decide +kernel
  have hlisted : IsListed ⟨none⟩ (registered (extendingCalls "Base") "m")
      (singleSuite "Solo" false) ("test_one", .method fun _ x => (x, .ofEnding (.finished ()))) :=
    ⟨.tail _ (.head _), rfl, .head _, by decide +kernel, rfl⟩
  -- Of two suites with different names both come first.
  have hfirst : ListsFirst ⟨none⟩ (registered (extendingCalls "Base") "m") := by
    refine ⟨List.pairwise_pair.2 ?_, fun s hs => ?_⟩
    · rintro t s a ⟨⟩ ⟨⟩ -
      decide
    · have hsingle : ∃ a, s.members = [a] := by
        rcases hasSuite_extendedRegistry ⟨_, .head _, hs⟩ with rfl | rfl <;> exact ⟨_, rfl⟩
      obtain ⟨a, ha⟩ := hsingle
      rw [ha]
      exact List.pairwise_singleton ..
  have hnames : (extendedRegistry "Base").HasIdentifierNames :=
    hasIdentifierNames_extendedRegistry (by decide +kernel)
  have hsame := resolvesSame_extendedRegistry "Base" ⟨none⟩ ⟨some "1"⟩
  obtain ⟨-, b, -, hb⟩ := ((discovered_bound_iff hnames hsame hd).2.1 hfirst).2 _ _ hlisted
  exact ⟨hd, b, hb⟩

/-- The abstract suite has the name of the suite that extends the module: its test is discovered,
but it cannot be bound. -/
theorem Registry.discovered_not_bound :
    (extendedRegistry "Solo").HasIdentifierNames ∧
      (extendedRegistry "Solo").ResolvesSame ⟨none⟩ ⟨none⟩ ∧
      ((extendedRegistry "Solo").discoverModule ⟨none⟩ "m").ending =
        .finished [.ofParts "m" "Solo" "test_one"] ∧
      ((extendedRegistry "Solo").bodyOf ⟨none⟩ (.ofParts "m" "Solo" "test_one")).ending =
        .failed (.abstractSuite "Solo") :=
  ⟨hasIdentifierNames_extendedRegistry (by decide +kernel), resolvesSame_extendedRegistry _ _ _,
    by decide +kernel, rfl⟩

end SuitePool
