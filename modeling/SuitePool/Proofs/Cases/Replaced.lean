import Mathlib.Data.List.Basic
import Mathlib.Tactic.Common
import SuitePool.Proofs.Cases.Discovered

/-!
# One member in place of another

A getter that takes the place of a member of a suite takes its id out of what is discovered, if it
fails with an error that can be written as a text: every other id stays where it is.  All members
are inspected before any id is made, though, whatever their names; so a getter that panics, or ends
the process, takes the discovery of its whole module with it.

## Main definitions

* `Registry.withGetter`: a getter in place of a member.

## Main results

* `Registry.discoverModule_withGetter_iff`: what is discovered with a getter that yields no method.
-/

namespace SuitePool

variable {σ : Type}

/-! ## Replacing a member -/

/-- A getter in place of the member at a place, with the name of that member. -/
def Suite.withGetter (s : Suite σ) (place : Nat) (resolve : Host → Act Failure (Body σ)) :
    Suite σ :=
  { s with members := s.members.modify place fun m => (m.1, .getter resolve) }

def Item.withGetter (place : Nat) (resolve : Host → Act Failure (Body σ)) : Item σ → Item σ
  | .suite s => .suite (s.withGetter place resolve)
  | item => item

def Module.withGetter (m : Module σ) (item member : Nat) (resolve : Host → Act Failure (Body σ)) :
    Module σ :=
  { m with items := m.items.modify item (Item.withGetter member resolve) }

/-- **A getter in place of a member** of a suite: `item` is the place of the suite among the items
of the module, and `member` that of the member in the suite. -/
def Registry.withGetter (r : Registry σ) (module : String) (item member : Nat)
    (resolve : Host → Act Failure (Body σ)) : Registry σ :=
  { r with modules := r.modules.map fun m =>
      if m.name = module then m.withGetter item member resolve else m }

theorem Registry.loadModule_withGetter {r : Registry σ} {module : String} {m : Module σ}
    (hm : r.loadModule module = .ok m) (item member : Nat)
    (resolve : Host → Act Failure (Body σ)) :
    (r.withGetter module item member resolve).loadModule module =
      .ok (m.withGetter item member resolve) := by
  have hname (m : Module σ) :
      (if m.name = module then m.withGetter item member resolve else m).name = m.name := by
    split_ifs <;> rfl
  rw [loadModule] at hm ⊢
  cases hf : r.modules.find? (fun m => m.name == module) with
  | none => rw [hf] at hm; cases hm
  | some n =>
    rw [hf] at hm
    cases hm
    have hn : m.name = module := by simpa using List.find?_some hf
    have hcomp : ((fun m => m.name == module) ∘ fun m : Module σ =>
        if m.name = module then m.withGetter item member resolve else m) =
          fun m => m.name == module := funext fun m => by simp only [Function.comp, hname]
    simp only [withGetter, List.find?_map, hcomp, hf, Option.map_some, if_pos hn]

/-- The item between others is modified at its place. -/
theorem modify_append_cons {α : Type} (f : α → α) (before : List α) (a : α) (after : List α) :
    (before ++ a :: after).modify before.length f = before ++ f a :: after := by
  induction before with
  | nil => rfl
  | cons b before ih =>
    rw [List.cons_append, List.length_cons, List.modify_succ_cons, ih, List.cons_append]

/-! ## Discovery -/

/-- A getter that yields no method has no id. -/
theorem idsOfState_of_unfinished {h : Host} {resolve : Host → Act Failure (Body σ)}
    (hres : ∀ b, (resolve h).ending ≠ .finished b) (module suite name : String) :
    idsOfState module suite (name, (Member.getter resolve).state h) = [] := by
  rw [idsOfState, if_neg]
  rintro ⟨-, hs⟩
  simp only [Member.state] at hs
  cases he : (resolve h).ending with
  | finished b => exact hres b he
  | failed | panicked | exited => rw [he] at hs; cases hs

/-- What is discovered in a module, with one of its members set apart. -/
theorem Registry.finished_discoverModule_member_iff {r : Registry σ} {h : Host} {module : String}
    {m : Module σ} {before after : List (Item σ)} {s : Suite σ}
    {front back : List (String × Member σ)} {name : String} {member : Member σ}
    (hm : r.loadModule module = .ok m) (hitems : m.items = before ++ .suite s :: after)
    (ha : s.isAbstract = false) (hmembers : s.members = front ++ (name, member) :: back)
    {ids : List TestId} :
    (r.discoverModule h module).ending = .finished ids ↔
      (((∀ item ∈ before ++ after, item.IsInspectable h) ∧
          ∀ m ∈ front ++ back, m.2.IsInspectable h) ∧ member.IsInspectable h) ∧
        ids = idsOfItems module h before ++ idsOfMembers module s.name h front ++
          idsOfState module s.name (name, member.state h) ++
            (idsOfMembers module s.name h back ++ idsOfItems module h after) := by
  have hsuite : (Item.suite s).IsInspectable h ↔
      (∀ m ∈ front ++ back, m.2.IsInspectable h) ∧ member.IsInspectable h := by
    simp only [Item.IsInspectable, ha, hmembers, List.forall_mem_append, List.forall_mem_cons]
    tauto
  rw [finished_discoverModule_iff hm, ids_cases hm, hitems, idsOfItems_suite module h before ha,
    hmembers, idsOfMembers_append_cons, List.forall_mem_append, List.forall_mem_cons, hsuite]
  simp only [List.forall_mem_append, List.append_assoc]
  tauto

/-- **What is discovered with a getter in place of a member.**  If the getter fails with an error
that can be written as a text and dropped, then what was discovered before, but without the id of
this member; and nothing if it ends in any other way without yielding a method. -/
theorem Registry.discoverModule_withGetter_iff {r : Registry σ} {h : Host} {module : String}
    {m : Module σ} {before after : List (Item σ)} {s : Suite σ}
    {front back : List (String × Member σ)} {name : String} {old : Member σ} {ids : List TestId}
    {resolve : Host → Act Failure (Body σ)} (hm : r.loadModule module = .ok m)
    (hitems : m.items = before ++ .suite s :: after) (ha : s.isAbstract = false)
    (hmembers : s.members = front ++ (name, old) :: back)
    (hd : (r.discoverModule h module).ending = .finished ids)
    (hres : ∀ b, (resolve h).ending ≠ .finished b) :
    let idsBefore := idsOfItems module h before ++ idsOfMembers module s.name h front
    let idsAfter := idsOfMembers module s.name h back ++ idsOfItems module h after
    ids = idsBefore ++ idsOfState module s.name (name, old.state h) ++ idsAfter ∧
      ∀ ids', ((r.withGetter module before.length front.length resolve).discoverModule h
          module).ending = .finished ids' ↔
        ((∃ f, (resolve h).ending = .failed f) ∧ (resolve h).IsClean) ∧
          ids' = idsBefore ++ idsAfter := by
  intro idsBefore idsAfter
  have hitems' : (m.withGetter before.length front.length resolve).items =
      before ++ .suite (s.withGetter front.length resolve) :: after := by
    rw [Module.withGetter, hitems, modify_append_cons]
    rfl
  have hmembers' : (s.withGetter front.length resolve).members =
      front ++ (name, .getter resolve) :: back := by
    rw [Suite.withGetter, hmembers, modify_append_cons]
  have hm' := loadModule_withGetter hm before.length front.length resolve
  obtain ⟨⟨hothers, -⟩, hids⟩ := (finished_discoverModule_member_iff hm hitems ha hmembers).1 hd
  refine ⟨hids, fun ids' => ?_⟩
  -- All other members are inspected as before, and so it depends on the getter.
  rw [finished_discoverModule_member_iff hm' hitems' ha hmembers', idsOfState_of_unfinished hres,
    List.append_nil]
  refine and_congr_left fun _ => ⟨fun ⟨_, hg⟩ => ?_, fun hg => ⟨hothers, .inr hg⟩⟩
  rcases hg with ⟨b, hb⟩ | hg
  · exact absurd hb (hres b)
  · exact hg

/-! ## A helper -/

/-- A suite with a test and a helper. -/
def helpedSuite : Suite Unit where
  name := "Solo"
  isAbstract := false
  construct := fun _ => .ofEnding (.finished ())
  setUp := fun _ x => (x, .ofEnding (.finished ()))
  tearDown := fun _ x => (x, .ofEnding (.finished ()))
  members := [("test_one", .method fun _ x => (x, .ofEnding (.finished ()))),
    ("helper", .method fun _ x => (x, .ofEnding (.finished ())))]

def helpedRegistry : Registry Unit := ⟨.ofString "/pkg", [⟨"m", [.suite helpedSuite]⟩]⟩

/-- A getter that always ends in the same way. -/
def endingGetter (ending : Ending Failure (Body Unit)) : Host → Act Failure (Body Unit) :=
  fun _ => .ofEnding ending

/-- A getter that fails takes the place of the helper: the test is discovered as before. -/
theorem Registry.discoverModule_failing_helper :
    (helpedRegistry.discoverModule ⟨none⟩ "m").ending =
        .finished [.ofParts "m" "Solo" "test_one"] ∧
      ((helpedRegistry.withGetter "m" 0 1 (endingGetter (.failed ["boom"]))).discoverModule ⟨none⟩
        "m").ending = .finished [.ofParts "m" "Solo" "test_one"] := by
  have hd : (helpedRegistry.discoverModule ⟨none⟩ "m").ending =
      .finished [.ofParts "m" "Solo" "test_one"] := by decide +kernel
  have hitems : [Item.suite helpedSuite] = [] ++ .suite helpedSuite :: [] := rfl
  have hmembers : helpedSuite.members =
      helpedSuite.members.take 1 ++
        ("helper", .method fun _ x => (x, .ofEnding (.finished ()))) :: [] :=
    rfl
  have hres (b : Body Unit) : (endingGetter (.failed ["boom"]) ⟨none⟩).ending ≠ .finished b := nofun
  have h := discoverModule_withGetter_iff (r := helpedRegistry) rfl hitems rfl hmembers hd hres
  exact ⟨hd, (h.2 _).2 ⟨⟨⟨_, rfl⟩, Act.isClean_ofEnding _⟩, by decide +kernel⟩⟩

/-- A getter that panics takes the place of the helper: nothing is discovered. -/
theorem Registry.discoverModule_panicking_helper :
    (helpedRegistry.discoverModule ⟨none⟩ "m").ending =
        .finished [.ofParts "m" "Solo" "test_one"] ∧
      ((helpedRegistry.withGetter "m" 0 1 (endingGetter (.panicked (some "boom")))).discoverModule
        ⟨none⟩ "m").ending = .panicked (some "boom") :=
  ⟨by decide +kernel, by decide +kernel⟩

end SuitePool
