import Mathlib.Data.List.Basic
import Mathlib.Data.List.Forall2
import Mathlib.Tactic.Common
import SuitePool.Finder
import SuitePool.Proofs.Exec
import SuitePool.Proofs.Text.Joining

/-!
# Real paths

A real path leads from the root directory to a place, without any links on the way.  It is
resolved again to the same place, and two places with one real path are the same.  All files that
finding yields are given by their real paths, each once.

Where a path is relative, this takes a working directory whose names may stand in a path.

## Main definitions

* `Step.IsPlain`: a step that a path may take.
* `Trail.IsReal`: a place that is reached without links.
* `FileTree.HasPlainHere`: a working directory with names that a path may hold.

## Main results

* `isReal_or_link_of_resolveSteps`: resolving comes to a place that is reached without links, or to
  a link in one.
* `FileTree.realPath?_of_isRealPath`: the real path of such a place is its own real path.
* `findTestFiles_eq_ok_iff`, `isRealPath_of_mem_findTestFiles`, `nodup_of_findTestFiles`: the files
  that are found.
-/

namespace SuitePool

open Text

/-! ## Steps and trails -/

/-- **May a path take this step?**  It enters an entry only by a name that is a segment of its
own. -/
def Step.IsPlain : Step → Prop
  | .enter n => Step.ofSegment n = .enter n ∧ slash ∉ n
  | _ => True

theorem Step.ofSegment_eq_enter {s n : Bytes} (h : Step.ofSegment s = .enter n) : n = s := by
  unfold ofSegment Path.segment? at h
  split_ifs at h
  all_goals cases h
  rfl

/-- The steps of a path are such steps. -/
theorem Path.isPlain_of_mem_steps {p : Path} {s : Step} (h : s ∈ p.steps) : s.IsPlain := by
  obtain ⟨segment, hs, rfl⟩ := List.mem_map.1 h
  cases he : Step.ofSegment segment with
  | enter n =>
    obtain rfl := Step.ofSegment_eq_enter he
    exact ⟨he, not_mem_of_mem_parts hs⟩
  | stay | up => trivial

/-- **Is a place reached without links**, by steps that a path may take? -/
inductive Trail.IsReal (top : List (Bytes × FileNode)) : Trail → Prop where
  /-- The root directory is. -/
  | root : IsReal top []
  /-- So is an entry of a directory, unless it is a link. -/
  | enter {trail : Trail} {entries : List (Bytes × FileNode)} {n : Bytes} {node : FileNode}
      (ht : IsReal top trail) (hd : trail.node top = .directory entries)
      (hn : lookupEntry n entries = some node) (hl : ∀ target, node ≠ .link target)
      (hp : (Step.enter n).IsPlain) (hs : n.length ≤ greatestNameLength) :
      IsReal top ((n, node) :: trail)

theorem Trail.IsReal.tail {top : List (Bytes × FileNode)} {trail : Trail}
    (h : Trail.IsReal top trail) : Trail.IsReal top trail.tail := by
  cases h with
  | root => exact .root
  | enter ht => exact ht

/-- **Resolving comes to a place that is reached without links**, or, if the last link is not
followed, to a link in such a place. -/
theorem isReal_or_link_of_resolveSteps {top : List (Bytes × FileNode)} {follow : Bool} {links : Nat}
    {steps : List Step} {trail result : Trail} (hs : ∀ s ∈ steps, s.IsPlain)
    (ht : Trail.IsReal top trail) (h : resolveSteps top follow links steps trail = .ok result) :
    Trail.IsReal top result ∨ follow = false ∧ ∃ rest entries n target,
      result = (n, .link target) :: rest ∧ Trail.IsReal top rest ∧
        Trail.node top rest = .directory entries ∧
        lookupEntry n entries = some (.link target) := by
  fun_induction resolveSteps top follow links steps trail with
  | case1 => exact .inl (Except.ok.inj h ▸ ht)
  | case2 links trail rest entries hd ih =>
    exact ih (fun s hmem => hs s (List.mem_cons_of_mem _ hmem)) ht h
  | case3 links trail rest entries hd ih =>
    exact ih (fun s hmem => hs s (List.mem_cons_of_mem _ hmem)) ht.tail h
  | case6 links trail rest entries hd n hn target hl hlast =>
    rw [Bool.and_eq_true, Bool.not_eq_true'] at hlast
    cases h
    exact .inr ⟨hlast.2, trail, entries, n, target, rfl, ht, hd, hl⟩
  | case8 trail rest entries hd n hn target hl hf links ih =>
    -- The target is resolved from the directory that holds the link, or from the root.
    refine ih (fun s hmem => ?_) ?_ h
    · rcases List.mem_append.1 hmem with hmem | hmem
      · exact Path.isPlain_of_mem_steps hmem
      · exact hs s (List.mem_cons_of_mem _ hmem)
    · split_ifs
      · exact .root
      · exact ht
  | case9 links trail rest entries hd n hn node hlink hl ih =>
    exact ih (fun s hmem => hs s (List.mem_cons_of_mem _ hmem))
      (.enter ht hd hl hlink (hs _ (List.mem_cons_self ..)) (Nat.le_of_not_lt hn)) h
  | case4 | case5 | case7 | case10 => cases h

/-- Where all links are followed, it is a place that is reached without links. -/
theorem isReal_of_resolveSteps {top : List (Bytes × FileNode)} {links : Nat} {steps : List Step}
    {trail result : Trail} (hs : ∀ s ∈ steps, s.IsPlain) (ht : Trail.IsReal top trail)
    (h : resolveSteps top true links steps trail = .ok result) : Trail.IsReal top result :=
  (isReal_or_link_of_resolveSteps hs ht h).resolve_right (by simp)

/-! ## The path of a place -/

namespace Trail

variable {top : List (Bytes × FileNode)} {trail : Trail}

/-- The steps from the root directory to a place. -/
def steps (trail : Trail) : List Step := trail.reverse.map fun e => .enter e.1

theorem IsReal.isPlain (h : trail.IsReal top) : ∀ e ∈ trail, (Step.enter e.1).IsPlain := by
  induction h with
  | root => simp
  | enter ht hd hn hl hp hs ih => exact List.forall_mem_cons.2 ⟨hp, ih⟩

/-- The names on the way to a place. -/
theorem IsReal.names (h : trail.IsReal top) : ∀ n ∈ trail.reverse.map (·.1),
    Path.segment? n = some (.name n) ∧ slash ∉ n := by
  intro n hn
  obtain ⟨e, he, rfl⟩ := List.mem_map.1 hn
  obtain ⟨hsegment, hslash⟩ := h.isPlain e (List.mem_reverse.1 he)
  refine ⟨?_, hslash⟩
  rw [Step.ofSegment] at hsegment
  cases hs : Path.segment? e.1 with
  | none => rw [hs] at hsegment; cases hsegment
  | some c =>
    rw [hs] at hsegment
    cases c with
    | name m =>
      cases hsegment
      rfl
    | root | here | up => cases hsegment

/-- **Its steps lead to the place**, without a link on the way. -/
theorem IsReal.resolveSteps_append (h : trail.IsReal top) (links : Nat) (more : List Step) :
    resolveSteps top true links (trail.steps ++ more) [] =
      resolveSteps top true links more trail := by
  induction h generalizing more with
  | root => rfl
  | @enter trail entries n node ht hd hn hl hp hs ih =>
    have hsteps : Trail.steps ((n, node) :: trail) ++ more = trail.steps ++ .enter n :: more := by
      simp [Trail.steps]
    rw [hsteps, ih, resolveSteps, hd]
    simp only [Nat.not_lt.2 hs, if_false, hn]

theorem parts_path (h : trail.IsReal top) : parts slash trail.path.bytes =
    [] :: if trail = [] then [[]] else trail.reverse.map (·.1) := by
  rw [path, parts_cons_sep]
  split_ifs with hne
  · subst hne
    rfl
  · rw [parts_joinWith (by simpa using hne) fun n hn => (h.names n hn).2]

theorem steps_path (h : trail.IsReal top) :
    trail.path.steps = .stay :: if trail = [] then [.stay] else trail.steps := by
  rw [Path.steps, parts_path h]
  split_ifs
  · rfl
  · rw [List.map_cons, List.map_map, Trail.steps]
    congr 1
    apply List.map_congr_left
    intro e he
    exact (h.isPlain e (List.mem_reverse.1 he)).1

/-- **The components of its path are the names on the way.** -/
theorem components_path (h : trail.IsReal top) :
    trail.path.components = .root :: trail.reverse.map fun e => .name e.1 := by
  have ha : trail.path.isAbsolute = true := rfl
  rw [Path.components, Path.layout, parts_path h, ha]
  simp only [if_true, Option.toList_some, List.singleton_append, List.cons.injEq, true_and]
  split_ifs with hne
  · subst hne
    rfl
  · rw [List.filterMap_map]
    apply (List.filterMap_congr (g := fun e => some (.name e.1)) ?_).trans
    · rw [← List.filterMap_eq_map]
      rfl
    · intro e he
      exact (h.names e.1 (List.mem_map_of_mem he)).1

/-- Places with the same components have the same path. -/
theorem path_injective {trail' : Trail} (h : trail.IsReal top) (h' : trail'.IsReal top)
    (hc : trail.path.components = trail'.path.components) : trail.path = trail'.path := by
  rw [components_path h, components_path h', List.cons.injEq] at hc
  have hn : trail.reverse.map (·.1) = trail'.reverse.map (·.1) := by
    have := congrArg (List.map fun c : Path.Component => c.bytes) hc.2
    simpa [List.map_map, Function.comp_def, Path.Component.bytes] using this
  rw [path, path, hn]

end Trail

/-! ## Real paths -/

namespace FileTree

variable {t : FileTree}

/-- Is the working directory given by names that a path may hold? -/
def HasPlainHere (t : FileTree) : Prop := ∀ n ∈ t.here, (Step.enter n).IsPlain

/-- **Is a path the real path of a place?** -/
def IsRealPath (t : FileTree) (p : Path) : Prop :=
  ∃ trail : Trail, trail.IsReal t.top ∧ p = trail.path ∧ p.bytes.length ≤ greatestPathLength

theorem isReal_workingTrail (h : t.HasPlainHere) : t.workingTrail.IsReal t.top := by
  rw [workingTrail]
  split
  · next trail hr =>
    refine isReal_of_resolveSteps (fun s hs => ?_) .root hr
    obtain ⟨n, hn, rfl⟩ := List.mem_map.1 hs
    exact h n hn
  · exact .root

/-- What a path leads to is reached without links. -/
theorem isReal_of_resolveAny (h : t.HasPlainHere) {p : Path} {trail : Trail}
    (hr : t.resolveAny true p = .ok trail) : trail.IsReal t.top := by
  rw [resolveAny] at hr
  split_ifs at hr
  · exact isReal_of_resolveSteps (fun s hs => Path.isPlain_of_mem_steps hs) .root hr
  · exact isReal_of_resolveSteps (fun s hs => Path.isPlain_of_mem_steps hs)
      (isReal_workingTrail h) hr

/-- **The real path of a place leads to this place.** -/
theorem resolveAny_path {trail : Trail} (h : trail.IsReal t.top) (hz : 0 ∉ trail.path.bytes) :
    t.resolveAny true trail.path = .ok trail := by
  have hne : trail.path.bytes ≠ [] := by simp [Trail.path]
  have ha : trail.path.isAbsolute = true := rfl
  rw [resolveAny, if_neg hz, if_neg hne, ha, if_pos rfl, Trail.steps_path h]
  split_ifs with hroot
  · subst hroot
    simp [resolveSteps, Trail.node]
  · rw [resolveSteps]
    simp only [Trail.node]
    rw [← List.append_nil trail.steps, h.resolveSteps_append, resolveSteps]

theorem isRealPath_of_realPath? (h : t.HasPlainHere) {p f : Path}
    (hr : t.realPath? p = some f) : t.IsRealPath f := by
  rw [realPath?] at hr
  split at hr
  · next trail hres =>
    split_ifs at hr with hl
    cases hr
    exact ⟨trail, isReal_of_resolveAny h hres, rfl, Nat.le_of_not_lt hl⟩
  · cases hr

/-- **A real path is its own real path.** -/
theorem realPath?_of_isRealPath {f : Path} (h : t.IsRealPath f) (hz : 0 ∉ f.bytes) :
    t.realPath? f = some f := by
  obtain ⟨trail, ht, rfl, hl⟩ := h
  rw [realPath?, resolveAny_path ht hz]
  simp only [Nat.not_lt.2 hl, if_false]

/-- Real paths with the same components are the same. -/
theorem IsRealPath.eq_of_components {f g : Path} (hf : t.IsRealPath f) (hg : t.IsRealPath g)
    (h : f.components = g.components) : f = g := by
  obtain ⟨trail, ht, rfl, -⟩ := hf
  obtain ⟨trail', ht', rfl, -⟩ := hg
  exact Trail.path_injective ht ht' h

/-- A file has no zero byte in its path. -/
theorem zero_not_mem_of_isFile {f : Path} (h : t.isFile f = true) : 0 ∉ f.bytes := by
  intro hz
  rw [isFile, node?, resolve, if_pos hz] at h
  cases h

end FileTree

/-! ## Files that are found -/

section Find

variable {t : FileTree} {pattern : String}

theorem isRealPath_of_mem_findPathFiles (h : t.HasPlainHere) {p f : Path} {files : List Path}
    (hfind : findPathFiles t pattern p = .ok files) (hf : f ∈ files) : t.IsRealPath f := by
  rw [findPathFiles] at hfind
  split_ifs at hfind
  · -- The path is a file itself.
    split at hfind
    · next real hr =>
      cases hfind
      rw [List.mem_singleton.1 hf]
      exact FileTree.isRealPath_of_realPath? h hr
    · cases hfind
  · -- Files are searched in a directory.
    simp only at hfind
    split at hfind
    · next found hs =>
      cases hfind
      rw [FileTree.search] at hs
      cases hw : t.walk (searchPlan t p pattern).1 with
      | error e => rw [hw] at hs; cases hs
      | ok entries =>
        rw [hw] at hs
        cases hs
        obtain ⟨e, -, he⟩ := List.mem_filterMap.1 hf
        split_ifs at he
        exact FileTree.isRealPath_of_realPath? h he
    · cases hfind

/-- The paths that are searched: the search roots, if no path is given. -/
def searchedPaths (paths : List Path) (settings : Settings) : List Path :=
  if paths.isEmpty then settings.searchRoots else paths

/-- **What is found for several paths is put together without repetitions.** -/
theorem findTestFiles_eq_ok_iff {paths files : List Path} {wildcard : Option String}
    {settings : Settings} : findTestFiles t paths wildcard settings = .ok files ↔
      ∃ found, List.Forall₂
        (fun p fs => findPathFiles t (wildcard.getD settings.filenamePattern) p = .ok fs)
        (searchedPaths paths settings) found ∧ files = found.flatten.eraseDups := by
  simp only [← mapM_eq_ok_iff]
  change (do
    let found ← (searchedPaths paths settings).mapM
      (findPathFiles t (wildcard.getD settings.filenamePattern))
    .ok found.flatten.eraseDups) = .ok files ↔ _
  cases (searchedPaths paths settings).mapM
      (findPathFiles t (wildcard.getD settings.filenamePattern)) with
  | error e =>
    constructor
    · intro h
      cases h
    · rintro ⟨_, h, -⟩
      cases h
  | ok found =>
    constructor
    · exact fun h => ⟨found, rfl, (Except.ok.inj h).symm⟩
    · rintro ⟨_, h, rfl⟩
      cases h
      rfl

/-- **Files are found by their real paths.** -/
theorem isRealPath_of_mem_findTestFiles (h : t.HasPlainHere) {paths files : List Path}
    {wildcard : Option String} {settings : Settings}
    (hfind : findTestFiles t paths wildcard settings = .ok files) {f : Path} (hf : f ∈ files) :
    t.IsRealPath f := by
  obtain ⟨found, hfound, rfl⟩ := findTestFiles_eq_ok_iff.1 hfind
  rw [List.mem_eraseDups] at hf
  obtain ⟨fs, hfs, hf⟩ := List.mem_flatten.1 hf
  obtain ⟨p, -, hp⟩ := exists_mem_of_forall₂ hfound fs hfs
  exact isRealPath_of_mem_findPathFiles h hp hf

/-- **Each file is found once.** -/
theorem nodup_of_findTestFiles {paths files : List Path} {wildcard : Option String}
    {settings : Settings} (hfind : findTestFiles t paths wildcard settings = .ok files) :
    files.Nodup := by
  obtain ⟨found, -, rfl⟩ := findTestFiles_eq_ok_iff.1 hfind
  exact nodup_eraseDups _

end Find

end SuitePool
