import Mathlib.Data.List.Basic
import Mathlib.Tactic.Common
import SuitePool.Proofs.Finding.Below
import SuitePool.Proofs.RealPaths

/-!
# Sound trees

In a sound tree the entries of each directory have different names, and paths can hold these names
and what links point to.  There the path of a directory, continued by the names that lead on from
it, leads where the names lead; so a regular file below a directory is found at its path, unless
that is too long.  The real path of a file is the path of a file again.

## Main definitions

* `IsName`: a name that a path can hold.
* `FileNode.IsSound`, `FileTree.IsSound`

## Main results

* `FileTree.isFile_descend_iff`: which places below a directory are regular files.
* `FileTree.isFile_of_realPath?`: the real path of a regular file.
* `FileTree.walk_eq`: a walk visits its start and what lies below it.
-/

namespace SuitePool

open Text

/-- **Can a path hold a name?** -/
structure IsName (n : Bytes) : Prop where
  plain : (Step.enter n).IsPlain
  nonzero : 0 ∉ n

/-- **Can paths lead to all places below a node**, each to one place, and can links lead on? -/
structure FileNode.IsSound (node : FileNode) : Prop where
  distinct : node.HasDistinctNames
  name : ∀ names m, node.Reaches names m → ∀ n ∈ names, IsName n
  target : ∀ names target, node.Reaches names (.link target) → 0 ∉ target.bytes

/-- **A tree whose places paths can lead to.** -/
structure FileTree.IsSound (t : FileTree) : Prop where
  top : (FileNode.directory t.top).IsSound
  here : t.HasPlainHere

theorem FileNode.IsSound.of_reaches {node m : FileNode} {names : List Bytes} (h : node.IsSound)
    (hr : node.Reaches names m) : m.IsSound where
  distinct _ _ hm := h.distinct _ _ (hr.append hm)
  name _ _ hm n hn := h.name _ _ (hr.append hm) n (List.mem_append_right _ hn)
  target _ _ hm := h.target _ _ (hr.append hm)

namespace FileNode

theorem isSound_file (content : Bytes) : (file content).IsSound where
  distinct := by rintro _ _ ⟨⟩
  name := by rintro _ _ ⟨⟩; simp
  target := by rintro _ _ ⟨⟩

theorem isSound_link_iff {target : Path} : (link target).IsSound ↔ 0 ∉ target.bytes := by
  refine ⟨fun h => h.target [] target .here, fun h => ⟨?_, ?_, ?_⟩⟩
  · rintro _ _ ⟨⟩
  · rintro _ _ ⟨⟩
    simp
  · rintro _ _ ⟨⟩
    exact h

theorem isSound_directory_iff {entries : List (Bytes × FileNode)} :
    (directory entries).IsSound ↔
      (entries.map (·.1)).Nodup ∧ ∀ e ∈ entries, IsName e.1 ∧ e.2.IsSound := by
  constructor
  · refine fun h => ⟨h.distinct [] entries .here, fun e he => ⟨?_, h.of_reaches (.enter he .here)⟩⟩
    exact h.name [e.1] e.2 (.enter he .here) e.1 (List.mem_singleton_self _)
  · rintro ⟨hd, he⟩
    refine ⟨hasDistinctNames_directory_iff.2 ⟨hd, fun e hmem => (he e hmem).2.distinct⟩, ?_, ?_⟩
    · rintro _ _ (_ | ⟨hmem, hr⟩)
      · simp
      · exact List.forall_mem_cons.2 ⟨(he _ hmem).1, (he _ hmem).2.name _ _ hr⟩
    · rintro _ _ (_ | ⟨hmem, hr⟩)
      exact (he _ hmem).2.target _ _ hr

theorem isSound_directory_cons_iff {e : Bytes × FileNode} {entries : List (Bytes × FileNode)} :
    (directory (e :: entries)).IsSound ↔ e.1 ∉ entries.map (·.1) ∧ IsName e.1 ∧ e.2.IsSound ∧
      (directory entries).IsSound := by
  rw [isSound_directory_iff, isSound_directory_iff, List.map_cons, List.nodup_cons,
    List.forall_mem_cons]
  tauto

end FileNode

theorem mem_of_lookupEntry {n : Bytes} {entries : List (Bytes × FileNode)} {node : FileNode}
    (h : lookupEntry n entries = some node) : (n, node) ∈ entries := by
  obtain ⟨⟨m, _⟩, he, rfl⟩ := Option.map_eq_some_iff.1 h
  obtain rfl : m = n := by simpa using List.find?_some he
  exact List.mem_of_find?_eq_some he

/-- An entry is found by its name. -/
theorem lookupEntry_of_mem {n : Bytes} {entries : List (Bytes × FileNode)} {node : FileNode}
    (hd : (entries.map (·.1)).Nodup) (h : (n, node) ∈ entries) :
    lookupEntry n entries = some node := by
  induction entries with
  | nil => cases h
  | cons e entries ih =>
    rw [List.map_cons, List.nodup_cons] at hd
    rcases List.mem_cons.1 h with rfl | h
    · simp [lookupEntry]
    · have hne : e.1 ≠ n := fun he => hd.1 (he ▸ List.mem_map_of_mem h)
      rw [← ih hd.2 h, lookupEntry, List.find?_cons_of_neg (by simpa using hne), lookupEntry]

/-! ## Places in a sound tree -/

namespace Trail

variable {top : List (Bytes × FileNode)} {trail : Trail}

/-- The names on the way to a place lead there. -/
theorem IsReal.reaches (h : trail.IsReal top) :
    (FileNode.directory top).Reaches (trail.reverse.map (·.1)) (trail.node top) := by
  induction h with
  | root => exact .here
  | @enter trail entries n node ht hd hn hl hp hs ih =>
    rw [hd] at ih
    rw [List.reverse_cons, List.map_append]
    exact ih.append (.enter (mem_of_lookupEntry hn) .here)

/-- No place of a sound tree has a zero byte in its path. -/
theorem IsReal.zero_not_mem (h : trail.IsReal top) (ht : (FileNode.directory top).IsSound) :
    0 ∉ trail.path.bytes := by
  intro hz
  rcases List.mem_cons.1 hz with hz | hz
  · cases hz
  · rcases mem_joinWith hz with hz | ⟨n, hn, hz⟩
    · cases hz
    · exact (ht.name _ _ h.reaches n hn).nonzero hz

end Trail

/-! ## Steps that are taken one after another -/

/-- **Further steps are taken from where the first ones lead**, with the links that are left. -/
theorem exists_resolveSteps_append (top : List (Bytes × FileNode)) (links : Nat)
    (steps : List Step) (trail : Trail) :
    ∃ left, ∀ more, resolveSteps top true links (steps ++ more) trail =
      resolveSteps top true links steps trail >>= resolveSteps top true left more := by
  fun_induction resolveSteps top true links steps trail with
  | case1 links trail => exact ⟨links, fun more => rfl⟩
  | case2 links trail rest entries hd ih | case3 links trail rest entries hd ih =>
    obtain ⟨left, hleft⟩ := ih
    refine ⟨left, fun more => ?_⟩
    rw [← hleft, List.cons_append, resolveSteps, hd]
  | case4 links trail rest entries hd n hn =>
    refine ⟨0, fun more => ?_⟩
    rw [List.cons_append, resolveSteps, hd]
    simp only [hn, if_true]
    rfl
  | case5 links trail rest entries hd n hn hl =>
    refine ⟨0, fun more => ?_⟩
    rw [List.cons_append, resolveSteps, hd]
    simp only [hn, hl, if_false]
    rfl
  | case6 links trail rest entries hd n hn target hl hlast => simp at hlast
  | case7 trail rest entries hd n hn target hl hf =>
    refine ⟨0, fun more => ?_⟩
    rw [List.cons_append, resolveSteps, hd]
    simp only [hn, hl, if_false, Bool.not_true, Bool.and_false, Bool.false_eq_true]
    rfl
  | case8 trail rest entries hd n hn target hl hf links ih =>
    simp only [dite_eq_ite] at ih
    obtain ⟨left, hleft⟩ := ih
    refine ⟨left, fun more => ?_⟩
    rw [← hleft, List.cons_append, resolveSteps, hd]
    simp only [hn, hl, if_false, Bool.not_true, Bool.and_false, Bool.false_eq_true,
      List.append_assoc]
  | case9 links trail rest entries hd n hn node hlink hl ih =>
    obtain ⟨left, hleft⟩ := ih
    refine ⟨left, fun more => ?_⟩
    rw [← hleft, List.cons_append, resolveSteps, hd]
    simp only [hn, hl, if_false]
  | case10 links trail step rest hd =>
    refine ⟨0, fun more => ?_⟩
    rw [List.cons_append, resolveSteps]
    simp only
    rfl

/-- A last step that stays where it is says only that there is a directory. -/
theorem resolveSteps_of_stay {top : List (Bytes × FileNode)} {links : Nat} {steps front : List Step}
    {trail result : Trail} (hs : steps = front ∨ steps = front ++ [.stay])
    (h : resolveSteps top true links steps trail = .ok result) :
    resolveSteps top true links front trail = .ok result := by
  rcases hs with rfl | rfl
  · exact h
  · obtain ⟨left, hleft⟩ := exists_resolveSteps_append top links front trail
    rw [hleft] at h
    cases hr : resolveSteps top true links front trail with
    | error e => rw [hr] at h; cases h
    | ok mid =>
      rw [hr] at h
      change resolveSteps top true left [.stay] mid = .ok result at h
      rw [resolveSteps] at h
      split at h
      · rw [resolveSteps] at h
        exact h
      · cases h

/-- Not to follow a link that the last step leads to makes a difference only if there is one. -/
theorem resolveSteps_false (top : List (Bytes × FileNode)) (links : Nat) (steps : List Step)
    (trail : Trail) :
    resolveSteps top false links steps trail = resolveSteps top true links steps trail ∨
      ∃ place target, resolveSteps top false links steps trail = .ok place ∧
        place.node top = .link target := by
  fun_induction resolveSteps top true links steps trail with
  | case1 links trail => exact .inl (by rw [resolveSteps])
  | case2 links trail rest entries hd ih =>
    rw [resolveSteps, hd]
    exact ih
  | case3 links trail rest entries hd ih =>
    rw [resolveSteps, hd]
    exact ih
  | case4 links trail rest entries hd n hn =>
    rw [resolveSteps, hd]
    exact .inl (if_pos hn)
  | case5 links trail rest entries hd n hn hl =>
    rw [resolveSteps, hd]
    simp only [hn, hl, if_false, true_or]
  | case6 links trail rest entries hd n hn target hl hlast => simp at hlast
  | case7 trail rest entries hd n hn target hl hf =>
    rw [resolveSteps, hd]
    simp only [hn, hl, if_false]
    by_cases hlast : (rest.isEmpty && !false) = true
    · rw [if_pos hlast]
      exact .inr ⟨_, target, rfl, rfl⟩
    · rw [if_neg hlast]
      exact .inl rfl
  | case8 trail rest entries hd n hn target hl hf links ih =>
    rw [resolveSteps, hd]
    simp only [hn, hl, if_false]
    by_cases hlast : (rest.isEmpty && !false) = true
    · rw [if_pos hlast]
      exact .inr ⟨_, target, rfl, rfl⟩
    · rw [if_neg hlast]
      simp only [dite_eq_ite] at ih
      exact ih
  | case9 links trail rest entries hd n hn node hlink hl ih =>
    rw [resolveSteps, hd]
    simp only [hn, hl, if_false]
    exact ih
  | case10 links trail step rest hd =>
    rw [resolveSteps]
    simp only [true_or]

/-! ## Paths that are continued -/

namespace IsName

variable {n : Bytes}

theorem slash_not_mem (h : IsName n) : slash ∉ n := h.plain.2

theorem ofSegment (h : IsName n) : Step.ofSegment n = .enter n := h.plain.1

theorem ne_nil (h : IsName n) : n ≠ [] := by
  rintro rfl
  exact absurd h.ofSegment (by decide)

theorem isAbsolute_eq_false (h : IsName n) : Path.isAbsolute ⟨n⟩ = false := by
  cases n with
  | nil => rfl
  | cons b n =>
    have hb : b ≠ slash := fun he => h.slash_not_mem (he ▸ List.mem_cons_self ..)
    simpa [Path.isAbsolute] using hb

end IsName

namespace Path

variable {p : Path} {n : Bytes}

/-- The path of an entry, with a slash before its name. -/
theorem exists_bytes_join (hn : IsName n) (hp : p.bytes ≠ []) :
    ∃ front, (p.join ⟨n⟩).bytes = front ++ slash :: n ∧
      (p.bytes = front ∨ p.bytes = front ++ [slash]) := by
  rw [join, hn.isAbsolute_eq_false]
  by_cases hl : p.bytes.getLast? = some slash
  · obtain ⟨front, hfront⟩ := List.getLast?_eq_some_iff.1 hl
    exact ⟨front, by simp [hfront], .inr hfront⟩
  · exact ⟨p.bytes, by simp [hl, hp], .inl rfl⟩

/-- The last step of the path of an entry enters that entry. -/
theorem exists_steps_join (hn : IsName n) (hp : p.bytes ≠ []) :
    ∃ front, (p.join ⟨n⟩).steps = front ++ [.enter n] ∧
      (p.steps = front ∨ p.steps = front ++ [.stay]) := by
  obtain ⟨front, hjoin, hfront⟩ := exists_bytes_join hn hp
  refine ⟨Path.steps ⟨front⟩, ?_, ?_⟩
  · rw [steps, hjoin, parts_append, parts_of_not_mem hn.slash_not_mem, List.map_append, steps,
      List.map_singleton, hn.ofSegment]
  · refine hfront.imp (fun h => by rw [steps, h, steps]) fun h => ?_
    rw [steps, h, parts_append, List.map_append]
    rfl

theorem isAbsolute_join (hn : IsName n) (hp : p.bytes ≠ []) :
    (p.join ⟨n⟩).isAbsolute = p.isAbsolute := by
  obtain ⟨b, bs, hb⟩ := List.exists_cons_of_ne_nil hp
  rw [join, hn.isAbsolute_eq_false]
  simp only [Bool.false_eq_true, if_false, isAbsolute]
  split_ifs <;> simp [hb]

theorem join_ne_nil (hn : IsName n) : (p.join ⟨n⟩).bytes ≠ [] := by
  rw [join, hn.isAbsolute_eq_false]
  simp only [Bool.false_eq_true, if_false]
  split_ifs <;> simp [hn.ne_nil]

theorem zero_not_mem_join (hn : IsName n) (hp : 0 ∉ p.bytes) : 0 ∉ (p.join ⟨n⟩).bytes := by
  have hz : (0 : UInt8) ≠ slash := by decide
  rw [join, hn.isAbsolute_eq_false]
  simp only [Bool.false_eq_true, if_false]
  split_ifs <;> simp [hp, hn.nonzero, hz]

end Path

namespace FileTree

variable {t : FileTree}

/-- Where the steps of a path start. -/
def originTrail (t : FileTree) (p : Path) : Trail := if p.isAbsolute then [] else t.workingTrail

theorem resolveAny_eq_ok_iff {follow : Bool} {p : Path} {trail : Trail} :
    t.resolveAny follow p = .ok trail ↔ 0 ∉ p.bytes ∧ p.bytes ≠ [] ∧
      resolveSteps t.top follow greatestLinkCount p.steps (t.originTrail p) = .ok trail := by
  rw [resolveAny]
  by_cases hz : 0 ∈ p.bytes
  · simp [hz]
  · by_cases hne : p.bytes = []
    · simp [hne]
    · rw [if_neg hz, if_neg hne]
      exact ⟨fun h => ⟨hz, hne, h⟩, fun h => h.2.2⟩

theorem resolve_eq_ok_iff {follow : Bool} {p : Path} {trail : Trail} :
    t.resolve follow p = .ok trail ↔
      p.bytes.length ≤ greatestPathLength ∧ t.resolveAny follow p = .ok trail := by
  rw [resolve]
  by_cases hz : 0 ∈ p.bytes
  · simp [resolveAny, hz]
  · by_cases hl : greatestPathLength < p.bytes.length
    · simp [hz, hl, Nat.not_le.2 hl]
    · simp [hz, hl, Nat.not_lt.1 hl]

theorem node?_eq_ok_iff {p : Path} {node : FileNode} : t.node? p = .ok node ↔
    ∃ trail, t.resolve true p = .ok trail ∧ trail.node t.top = node := by
  rw [node?]
  cases t.resolve true p <;> simp [Except.map]

/-- **The path of an entry leads there**, unless the entry is a link. -/
theorem resolveAny_join {p : Path} {trail : Trail} {entries : List (Bytes × FileNode)} {n : Bytes}
    {child : FileNode} (h : t.resolveAny true p = .ok trail)
    (hd : trail.node t.top = .directory entries) (hn : IsName n)
    (he : lookupEntry n entries = some child) (hs : n.length ≤ greatestNameLength)
    (hl : ∀ target, child ≠ .link target) :
    t.resolveAny true (p.join ⟨n⟩) = .ok ((n, child) :: trail) := by
  obtain ⟨hz, hne, h⟩ := resolveAny_eq_ok_iff.1 h
  obtain ⟨front, hsteps, hfront⟩ := Path.exists_steps_join hn hne
  refine resolveAny_eq_ok_iff.2 ⟨Path.zero_not_mem_join hn hz, Path.join_ne_nil hn, ?_⟩
  rw [hsteps, originTrail, Path.isAbsolute_join hn hne, ← originTrail]
  obtain ⟨left, hleft⟩ := exists_resolveSteps_append t.top greatestLinkCount front (t.originTrail p)
  rw [hleft, resolveSteps_of_stay hfront h]
  change resolveSteps t.top true left [.enter n] trail = _
  rw [resolveSteps, hd]
  simp only [Nat.not_lt.2 hs, if_false, he]
  rw [resolveSteps]

/-- **The path of a directory, continued by names that lead on from it, leads where they lead**,
unless that is a link. -/
theorem resolveAny_descend {root node : FileNode} {names : List Bytes}
    (hr : root.Reaches names node) (hroot : root.IsSound) (hl : ∀ target, node ≠ .link target)
    (hs : ∀ n ∈ names, n.length ≤ greatestNameLength) {p : Path} {trail : Trail}
    (h : t.resolveAny true p = .ok trail) (hd : trail.node t.top = root) :
    ∃ place, t.resolveAny true (p.descend names) = .ok place ∧ place.node t.top = node := by
  induction hr generalizing p trail with
  | here => exact ⟨trail, h, hd⟩
  | @enter entries n child node names he hr ih =>
    have hchild : ∀ target, child ≠ .link target := by
      rintro target rfl
      cases hr
      exact hl target rfl
    have hname : IsName n := hroot.name [n] child (.enter he .here) n (List.mem_singleton_self n)
    rw [List.forall_mem_cons] at hs
    have hjoin := resolveAny_join h hd hname
      (lookupEntry_of_mem (hroot.distinct [] entries .here) he) hs.1 hchild
    exact ih (hroot.of_reaches (.enter he .here)) hl hs.2 hjoin rfl

theorem isFile_iff {p : Path} :
    t.isFile p = true ↔ ∃ content, t.node? p = .ok (.file content) := by
  rw [isFile]
  split
  · next content h => exact ⟨fun _ => ⟨content, h⟩, fun _ => rfl⟩
  · next h =>
    constructor
    · exact fun hf => absurd hf Bool.false_ne_true
    · rintro ⟨content, hc⟩
      exact absurd hc (h content)

theorem isDirectory_iff {p : Path} :
    t.isDirectory p = true ↔ ∃ entries, t.node? p = .ok (.directory entries) := by
  rw [isDirectory]
  split
  · next entries h => exact ⟨fun _ => ⟨entries, h⟩, fun _ => rfl⟩
  · next h =>
    constructor
    · exact fun hf => absurd hf Bool.false_ne_true
    · rintro ⟨entries, hc⟩
      exact absurd hc (h entries)

/-- **A regular file below a directory is one at its path**, and a directory is none: only of links
it counts where they lead. -/
theorem isFile_descend_iff {p : Path} {root node : FileNode} {names : List Bytes}
    (h : t.node? p = .ok root) (hroot : root.IsSound) (hr : root.Reaches names node)
    (hs : ∀ n ∈ names, n.length ≤ greatestNameLength)
    (hp : (p.descend names).bytes.length ≤ greatestPathLength)
    (hl : ∀ target, node ≠ .link target) :
    t.isFile (p.descend names) = true ↔ ∃ content, node = .file content := by
  obtain ⟨trail, htrail, hd⟩ := node?_eq_ok_iff.1 h
  obtain ⟨place, hplace, hnode⟩ :=
    resolveAny_descend hr hroot hl hs (resolve_eq_ok_iff.1 htrail).2 hd
  have hnode? : t.node? (p.descend names) = .ok node :=
    node?_eq_ok_iff.2 ⟨place, resolve_eq_ok_iff.2 ⟨hp, hplace⟩, hnode⟩
  rw [isFile_iff, hnode?]
  simp

/-! ## Real paths of files -/

/-- **The real path of a regular file** is an absolute path that leads to a regular file, and its
own real path. -/
theorem isFile_of_realPath? (ht : t.IsSound) {p f : Path} (hp : t.isFile p = true)
    (hr : t.realPath? p = some f) :
    f.isAbsolute = true ∧ t.isFile f = true ∧ t.realPath? f = some f := by
  obtain ⟨content, hc⟩ := isFile_iff.1 hp
  obtain ⟨trail, htrail, hd⟩ := node?_eq_ok_iff.1 hc
  have hany := (resolve_eq_ok_iff.1 htrail).2
  rw [realPath?, hany] at hr
  dsimp only at hr
  split_ifs at hr with hl
  cases hr
  have hreal := isReal_of_resolveAny ht.here hany
  have hpath := resolveAny_path hreal (hreal.zero_not_mem ht.top)
  refine ⟨rfl, isFile_iff.2 ⟨content, node?_eq_ok_iff.2 ⟨trail, ?_, hd⟩⟩, ?_⟩
  · exact resolve_eq_ok_iff.2 ⟨Nat.le_of_not_lt hl, hpath⟩
  · exact realPath?_of_isRealPath ⟨trail, hreal, rfl, Nat.le_of_not_lt hl⟩
      (hreal.zero_not_mem ht.top)

/-! ## The start of a walk -/

theorem resolve_false (t : FileTree) (p : Path) :
    t.resolve false p = t.resolve true p ∨
      ∃ place target, t.resolve false p = .ok place ∧ place.node t.top = .link target := by
  unfold resolve resolveAny
  by_cases hz : 0 ∈ p.bytes
  · simp only [hz, if_true, true_or]
  · by_cases hl : greatestPathLength < p.bytes.length
    · simp only [hz, hl, if_false, if_true, true_or]
    · by_cases hne : p.bytes = []
      · simp only [hne, if_true, true_or]
      · simp only [hz, hl, hne, if_false]
        exact resolveSteps_false ..

/-- **A walk visits what its path leads to and what lies below it**, also where the path leads
through a link. -/
theorem walk_eq (t : FileTree) (p : Path) :
    t.walk p = (t.node? p).mapError (WalkError.mk p) >>= fun node =>
      List.mapM id (.ok (Entry.mk p (startName p)) :: node.inside p) := by
  rcases t.resolve_false p with hsame | ⟨place, target, hplace, hlink⟩
  · rw [walk, hsame]
    cases hr : t.resolve true p with
    | error e => simp only [node?, hr]; rfl
    | ok place =>
      have hnode : t.node? p = .ok (place.node t.top) := by rw [node?, hr]; rfl
      -- Of a link the same node is found once more.
      cases hd : place.node t.top <;> simp only [hnode, hd, Except.mapError, bind, Except.bind]
  · simp only [walk, hplace, hlink, Except.mapError, bind, Except.bind]

theorem walk_of_node? {p : Path} {node : FileNode} (h : t.node? p = .ok node) :
    t.walk p = List.mapM id (.ok (Entry.mk p (startName p)) :: node.inside p) := by
  rw [walk_eq, h]
  rfl

theorem walk_of_error {p : Path} {e : FileError} (h : t.node? p = .error e) :
    t.walk p = .error ⟨p, e⟩ := by
  rw [walk_eq, h]
  rfl

end FileTree

end SuitePool
