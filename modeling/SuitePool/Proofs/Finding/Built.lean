import Mathlib.Data.List.Basic
import Mathlib.Tactic.Common
import SuitePool.FileTree.Build
import SuitePool.Proofs.Finding.Sound
import SuitePool.Scenario

/-!
# Built trees are sound

Building a tree entry by entry keeps it sound, as long as the paths of the entries and of the places
that links point to have no zero byte: a name that is added differs from those that are there, and
comes from a path.  A tree is built with a working directory whose names may stand in a path, and
moving to a directory leads to such a one.

## Main definitions

* `FileTree.IsBuilt`: a tree that is built entry by entry.

## Main results

* `Scenario.hasPlainHere_tree`, `Scenario.hasPlainHere_workIn`: where one works in a tree that is
  described.
* `FileNode.IsSound.put`: putting a node at a place.
* `FileTree.IsSound.makeDirectories`, `FileTree.IsSound.addFile`, `FileTree.IsSound.addLink`: adding
  an entry.
* `FileTree.IsBuilt.isSound`: built trees.
-/

namespace SuitePool

open Text

/-! ## Where one works -/

namespace FileTree

variable (t : FileTree)

theorem here_putAt (names : List Bytes) (node : FileNode) : (t.putAt names node).here = t.here := by
  rw [putAt]
  split <;> rfl

theorem here_makeSteps (names : List Bytes) (steps : List Step) :
    (t.makeSteps names steps).1.here = t.here := by
  induction steps generalizing t names with
  | nil => rfl
  | cons s steps ih =>
    cases s with
    | stay => exact ih ..
    | up => exact ih ..
    | enter n =>
      rw [makeSteps]
      split
      · exact ih ..
      · exact (ih ..).trans (t.here_putAt ..)

theorem here_of_prepare {t t' : FileTree} {p : Path} {names : List Bytes} {n : Bytes}
    (h : t.prepare p = some (t', names, n)) : t'.here = t.here := by
  rw [prepare] at h
  split at h
  · cases h
    exact t.here_makeSteps ..
  · cases h

theorem here_addFile (p : Path) (content : Bytes) : (t.addFile p content).here = t.here := by
  rw [addFile]
  cases hp : t.prepare p with
  | none => rfl
  | some made =>
    obtain ⟨t', names, n⟩ := made
    dsimp only
    split
    · rw [here_putAt, here_of_prepare hp]
    · exact here_of_prepare hp

theorem here_addLink (p target : Path) : (t.addLink p target).here = t.here := by
  rw [addLink]
  cases hp : t.prepare p with
  | none => rfl
  | some made =>
    obtain ⟨t', names, n⟩ := made
    dsimp only
    split
    · rw [here_putAt, here_of_prepare hp]
    · exact here_of_prepare hp

end FileTree

namespace Scenario

theorem here_addEntry (t : FileTree) (j : Json) : (addEntry t j).here = t.here := by
  unfold addEntry
  split
  · exact t.here_addFile ..
  · exact t.here_makeSteps ..
  · exact t.here_addLink ..
  · exact t.here_addFile ..
  · rfl

/-- **The tree of a list of entries** has the working directory it is built in. -/
theorem hasPlainHere_tree {root : List Bytes} (h : ∀ n ∈ root, (Step.enter n).IsPlain)
    (entries : List Json) : (tree root entries).HasPlainHere := by
  have hfold : ∀ t : FileTree, (entries.foldl addEntry t).here = t.here := by
    induction entries with
    | nil => exact fun _ => rfl
    | cons j entries ih => exact fun t => (ih _).trans (here_addEntry t j)
  intro n hn
  rw [tree, hfold] at hn
  exact h n hn

/-- **Moving to a directory** leads to one whose names a path may hold. -/
theorem hasPlainHere_workIn {t : FileTree} (h : t.HasPlainHere) (p : Path) :
    (workIn t p).HasPlainHere := by
  rw [workIn]
  split
  · next trail hr =>
    rw [FileTree.resolve] at hr
    split_ifs at hr
    intro n hn
    obtain ⟨e, he, rfl⟩ := List.mem_map.1 hn
    exact (FileTree.isReal_of_resolveAny h hr).isPlain e (List.mem_reverse.1 he)
  · exact h

end Scenario

/-! ## Putting a node at a place -/

namespace FileNode

variable {new node : FileNode} {n : Bytes} {names : List Bytes}
  {entries : List (Bytes × FileNode)}

theorem mem_map_fst_putEntry {m : Bytes} (h : m ∈ (putEntry new n names entries).map (·.1)) :
    m = n ∨ m ∈ entries.map (·.1) := by
  induction entries with
  | nil => exact .inl (List.mem_singleton.1 h)
  | cons e entries ih =>
    rw [putEntry] at h
    split_ifs at h
    · exact .inr h
    · rcases List.mem_cons.1 h with rfl | h
      · exact .inr (List.mem_cons_self ..)
      · exact (ih h).imp_right (List.mem_cons_of_mem _)

theorem isSound_nil : (directory []).IsSound := by simp [isSound_directory_iff]

theorem isSound_singleton (hn : IsName n) (h : node.IsSound) : (directory [(n, node)]).IsSound := by
  simp [isSound_directory_iff, hn, h]

theorem isSound_foldr (hnames : ∀ n ∈ names, IsName n) (h : new.IsSound) :
    (names.foldr (fun m node => directory [(m, node)]) new).IsSound := by
  induction names with
  | nil => exact h
  | cons n names ih =>
    rw [List.forall_mem_cons] at hnames
    exact isSound_singleton hnames.1 (ih hnames.2)

theorem isSound_putEntry (hn : IsName n) (hnames : ∀ n ∈ names, IsName n) (hnew : new.IsSound)
    (hput : ∀ node : FileNode, node.IsSound → (put new names node).IsSound)
    (h : (directory entries).IsSound) : (directory (putEntry new n names entries)).IsSound := by
  induction entries with
  | nil => exact isSound_singleton hn (isSound_foldr hnames hnew)
  | cons e entries ih =>
    obtain ⟨hfresh, hname, he, hentries⟩ := isSound_directory_cons_iff.1 h
    rw [putEntry]
    split_ifs with hne
    · exact isSound_directory_cons_iff.2 ⟨hfresh, hname, hput e.2 he, hentries⟩
    · refine isSound_directory_cons_iff.2 ⟨fun hmem => ?_, hname, he, ih hentries⟩
      exact (mem_map_fst_putEntry hmem).elim hne hfresh

/-- **Putting a sound node at a place** keeps a node sound. -/
theorem IsSound.put (hnew : new.IsSound) (hnames : ∀ n ∈ names, IsName n) (h : node.IsSound) :
    (FileNode.put new names node).IsSound := by
  induction names generalizing node with
  | nil => rwa [FileNode.put]
  | cons n names ih =>
    rw [List.forall_mem_cons] at hnames
    cases node with
    | file | link => exact h
    | directory entries =>
      exact isSound_putEntry hnames.1 hnames.2 hnew (fun _ => ih hnames.2) h

end FileNode

namespace FileTree

variable {t : FileTree}

theorem IsSound.putAt (ht : t.IsSound) {names : List Bytes} (hnames : ∀ n ∈ names, IsName n)
    {node : FileNode} (h : node.IsSound) : (t.putAt names node).IsSound := by
  have hput := h.put hnames ht.top
  refine ⟨?_, fun n hn => ht.here n (by rwa [here_putAt] at hn)⟩
  rw [FileTree.putAt]
  split
  · next entries he => rwa [he] at hput
  · exact ht.top

end FileTree

/-! ## Names of steps and places -/

/-- **Can a path hold the names that steps enter?** -/
def EnterNames (steps : List Step) : Prop := ∀ n, Step.enter n ∈ steps → IsName n

theorem EnterNames.isPlain {steps : List Step} (h : EnterNames steps) : ∀ s ∈ steps, s.IsPlain := by
  intro s hs
  cases s with
  | enter n => exact (h n hs).plain
  | stay | up => trivial

theorem EnterNames.mono {steps steps' : List Step} (h : EnterNames steps)
    (hs : ∀ s ∈ steps', s ∈ steps) : EnterNames steps' := fun n hn => h n (hs _ hn)

theorem enterNames_map {names : List Bytes} (h : ∀ n ∈ names, IsName n) :
    EnterNames (names.map .enter) := by
  intro n hn
  obtain ⟨m, hm, he⟩ := List.mem_map.1 hn
  exact Step.enter.inj he ▸ h m hm

theorem Path.enterNames_steps {p : Path} (h : 0 ∉ p.bytes) : EnterNames p.steps := by
  intro n hn
  refine ⟨Path.isPlain_of_mem_steps hn, fun hz => ?_⟩
  obtain ⟨segment, hs, he⟩ := List.mem_map.1 hn
  obtain rfl := Step.ofSegment_eq_enter he
  exact h (mem_of_mem_parts hs hz)

namespace FileTree

variable {t : FileTree} {names : List Bytes}

theorem IsSound.isName_of_isReal (ht : t.IsSound) {trail : Trail} (h : trail.IsReal t.top) :
    ∀ n ∈ namesOf trail, IsName n := ht.top.name _ _ h.reaches

theorem IsSound.isName_of_resolveSteps (ht : t.IsSound) {links : Nat} {steps : List Step}
    {trail result : Trail} (hs : EnterNames steps) (htrail : trail.IsReal t.top)
    (h : resolveSteps t.top true links steps trail = .ok result) :
    ∀ n ∈ namesOf result, IsName n :=
  ht.isName_of_isReal (isReal_of_resolveSteps hs.isPlain htrail h)

/-- A link that is not followed is in a place without links on the way. -/
theorem IsSound.link_of_resolveSteps (ht : t.IsSound) {links : Nat} {steps : List Step}
    {trail : Trail} {target : Path} (hs : EnterNames steps)
    (h : resolveSteps t.top false links steps [] = .ok trail)
    (hl : trail.node t.top = .link target) :
    Trail.IsReal t.top trail.tail ∧ 0 ∉ target.bytes := by
  rcases isReal_or_link_of_resolveSteps hs.isPlain .root h with
    hreal | ⟨-, rest, entries, n, _, rfl, hrest, hd, hn⟩
  · cases hreal with
    | root => cases hl
    | enter _ _ _ hne => exact absurd hl (hne target)
  · cases hl
    have hreaches := hrest.reaches
    rw [hd] at hreaches
    exact ⟨hrest, ht.top.target _ _ (hreaches.append (.enter (mem_of_lookupEntry hn) .here))⟩

theorem isName_append {n : Bytes} (hnames : ∀ n ∈ names, IsName n) (hn : IsName n) :
    ∀ m ∈ names ++ [n], IsName m := by
  simpa [or_imp, forall_and] using ⟨hnames, hn⟩

/-! ## Adding entries -/

theorem IsSound.makeSteps (ht : t.IsSound) (hnames : ∀ n ∈ names, IsName n) {steps : List Step}
    (hs : EnterNames steps) : (t.makeSteps names steps).1.IsSound ∧
      ∀ n ∈ (t.makeSteps names steps).2, IsName n := by
  induction steps generalizing t names with
  | nil => exact ⟨ht, hnames⟩
  | cons step steps ih =>
    have hrest : EnterNames steps := hs.mono fun s => List.mem_cons_of_mem _
    cases step with
    | stay => exact ih ht hnames hrest
    | up => exact ih ht (fun n hn => hnames n (List.dropLast_subset _ hn)) hrest
    | enter n =>
      have hall := isName_append hnames (hs n (List.mem_cons_self ..))
      rw [FileTree.makeSteps]
      split
      · next place hplace =>
        -- The entry is there.
        rw [entryPlace?] at hplace
        split at hplace
        · next trail hr =>
          cases hplace
          exact ih ht (ht.isName_of_resolveSteps (enterNames_map hall) .root hr) hrest
        · cases hplace
      · -- A directory is made.
        exact ih (ht.putAt hall FileNode.isSound_nil) hall hrest

theorem IsSound.originOf (ht : t.IsSound) (p : Path) : ∀ n ∈ t.originOf p, IsName n := by
  rw [FileTree.originOf]
  split_ifs
  · simp
  · exact ht.isName_of_isReal (isReal_workingTrail ht.here)

/-- **Making directories** keeps a tree sound. -/
theorem IsSound.makeDirectories (ht : t.IsSound) {p : Path} (hp : 0 ∉ p.bytes) :
    (t.makeDirectories p).IsSound :=
  (ht.makeSteps (ht.originOf p) (Path.enterNames_steps hp)).1

theorem IsSound.prepare (ht : t.IsSound) {p : Path} (hp : 0 ∉ p.bytes) {t' : FileTree} {n : Bytes}
    (h : t.prepare p = some (t', names, n)) :
    t'.IsSound ∧ (∀ m ∈ names, IsName m) ∧ IsName n := by
  have hsteps := Path.enterNames_steps hp
  rw [FileTree.prepare] at h
  split at h
  · next hlast =>
    cases h
    have hmade := ht.makeSteps (ht.originOf p)
      (hsteps.mono fun s hs => List.dropLast_subset _ hs)
    exact ⟨hmade.1, hmade.2, hsteps _ (List.mem_of_getLast? hlast)⟩
  · cases h

theorem IsSound.writingPlace? (ht : t.IsSound) {links : Nat} {n : Bytes} {place : List Bytes}
    (hnames : ∀ n ∈ names, IsName n) (hn : IsName n)
    (h : t.writingPlace? links names n = some place) : ∀ m ∈ place, IsName m := by
  fun_induction FileTree.writingPlace? t links names n with
  | case1 | case5 =>
    cases h
    exact isName_append hnames hn
  | case2 names n trail hr target links hlink origin m parent hparent hlast ih =>
    obtain ⟨hreal, htarget⟩ := ht.link_of_resolveSteps (enterNames_map (isName_append hnames hn)) hr
      hlink
    have hsteps := Path.enterNames_steps htarget
    have horigin : Trail.IsReal t.top origin := by
      unfold origin
      split_ifs
      · exact .root
      · exact hreal
    exact ih (ht.isName_of_resolveSteps (hsteps.mono fun _ => (List.dropLast_subset _ ·)) horigin
      hparent) (hsteps m (List.mem_of_getLast? hlast)) h
  | case3 | case4 => cases h

/-- **Adding a file** keeps a tree sound. -/
theorem IsSound.addFile (ht : t.IsSound) {p : Path} (hp : 0 ∉ p.bytes) (content : Bytes) :
    (t.addFile p content).IsSound := by
  rw [FileTree.addFile]
  split
  · exact ht
  · next t' names n h =>
    obtain ⟨ht', hnames, hn⟩ := ht.prepare hp h
    split
    · next place hplace =>
      exact ht'.putAt (ht'.writingPlace? hnames hn hplace) (FileNode.isSound_file content)
    · exact ht'

/-- **Adding a link** keeps a tree sound. -/
theorem IsSound.addLink (ht : t.IsSound) {p target : Path} (hp : 0 ∉ p.bytes)
    (htarget : 0 ∉ target.bytes) : (t.addLink p target).IsSound := by
  rw [FileTree.addLink]
  split
  · exact ht
  · next t' names n h =>
    obtain ⟨ht', hnames, hn⟩ := ht.prepare hp h
    split
    · exact ht'.putAt (isName_append hnames hn) (FileNode.isSound_link_iff.2 htarget)
    · exact ht'

/-! ## Trees that are built -/

/-- **A tree that is built entry by entry**, from paths without zero bytes; one works in any of its
directories. -/
inductive IsBuilt : FileTree → Prop where
  /-- There is nothing at first but a directory to work in. -/
  | start {root : List Bytes} (h : ∀ n ∈ root, IsName n) :
      IsBuilt { (FileTree.mk [] []).putAt root (.directory []) with here := root }
  /-- A directory is made. -/
  | directory {t : FileTree} {p : Path} (ht : IsBuilt t) (hp : 0 ∉ p.bytes) :
      IsBuilt (t.makeDirectories p)
  /-- A file is written. -/
  | file {t : FileTree} {p : Path} {content : Bytes} (ht : IsBuilt t) (hp : 0 ∉ p.bytes) :
      IsBuilt (t.addFile p content)
  /-- A link is made. -/
  | link {t : FileTree} {p target : Path} (ht : IsBuilt t) (hp : 0 ∉ p.bytes)
      (htarget : 0 ∉ target.bytes) : IsBuilt (t.addLink p target)
  /-- One moves to a directory. -/
  | moved {t : FileTree} (ht : IsBuilt t) (p : Path) : IsBuilt (Scenario.workIn t p)

/-- **Built trees are sound.** -/
theorem IsBuilt.isSound (h : t.IsBuilt) : t.IsSound := by
  induction h with
  | start h =>
    have hempty : (FileTree.mk [] []).IsSound :=
      ⟨FileNode.isSound_nil, fun _ hn => absurd hn List.not_mem_nil⟩
    exact ⟨(hempty.putAt h FileNode.isSound_nil).top, fun n hn => (h n hn).plain⟩
  | directory _ hp ih => exact ih.makeDirectories hp
  | file _ hp ih => exact ih.addFile hp _
  | link _ hp htarget ih => exact ih.addLink hp htarget
  | moved _ p ih =>
    refine ⟨?_, Scenario.hasPlainHere_workIn ih.here p⟩
    rw [Scenario.workIn]
    split <;> exact ih.top

end FileTree

end SuitePool
