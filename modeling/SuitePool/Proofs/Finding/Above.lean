import Mathlib.Data.List.Basic
import Mathlib.Tactic.Common
import SuitePool.Proofs.Finding.Found
import SuitePool.Proofs.Text.Encoding

/-!
# Paths at which nothing is

If neither a file nor a directory is at a path, the directory above it is searched; whether there is
such a directory is left to the walk.  A walk from nowhere fails, and so does the search.  But a
walk from a regular file, or from a link to one, comes to its end, and visits that file alone: below
a regular file nothing is missed, and the file itself is found if its name matches the file name of
the path.

## Main definitions

* `Trail.HasNoLink`: no link is on the way to a place.

## Main results

* `FileTree.node?_ne_link`: no path leads to a link, as links are followed.
* `FileTree.search_of_file`, `FileTree.search_of_error`: searches that start at no directory.
* `findTestFiles_of_nothing`: what is found for a path at which nothing is.
-/

namespace SuitePool

open Text

/-! ## Where paths lead -/

/-- **Is no link on the way to a place?** -/
def Trail.HasNoLink (trail : Trail) : Prop := ∀ e ∈ trail, ∀ target, e.2 ≠ .link target

theorem Trail.hasNoLink_nil : Trail.HasNoLink [] := by simp [HasNoLink]

/-- Steps that follow all links keep off them. -/
theorem hasNoLink_of_resolveSteps {top : List (Bytes × FileNode)} {links : Nat} {steps : List Step}
    {trail result : Trail} (h : resolveSteps top true links steps trail = .ok result)
    (ht : trail.HasNoLink) : result.HasNoLink := by
  fun_induction resolveSteps top true links steps trail with
  | case1 links trail =>
    cases h
    exact ht
  | case2 links trail rest entries hd ih => exact ih h ht
  | case3 links trail rest entries hd ih => exact ih h fun e he => ht e (List.mem_of_mem_tail he)
  | case6 links trail rest entries hd n hn target hl hlast => simp at hlast
  | case8 trail rest entries hd n hn target hl hf links ih =>
    -- The target is read from the root or from here.
    refine ih h ?_
    split_ifs
    · exact Trail.hasNoLink_nil
    · exact ht
  | case9 links trail rest entries hd n hn node hlink hl ih =>
    refine ih h (List.forall_mem_cons.2 ⟨?_, ht⟩)
    rintro target rfl
    exact hlink target rfl
  | case4 | case5 | case7 | case10 => cases h

namespace FileTree

variable {t : FileTree} {p : Path} {pattern : String}

theorem hasNoLink_workingTrail (t : FileTree) : t.workingTrail.HasNoLink := by
  rw [workingTrail]
  split
  · next trail h => exact hasNoLink_of_resolveSteps h Trail.hasNoLink_nil
  · exact Trail.hasNoLink_nil

/-- **No path leads to a link**, as links are followed. -/
theorem node?_ne_link (t : FileTree) (p target : Path) : t.node? p ≠ .ok (.link target) := by
  intro h
  obtain ⟨trail, htrail, hd⟩ := node?_eq_ok_iff.1 h
  obtain ⟨-, -, hsteps⟩ := resolveAny_eq_ok_iff.1 (resolve_eq_ok_iff.1 htrail).2
  have horigin : (t.originTrail p).HasNoLink := by
    rw [originTrail]
    split_ifs
    · exact Trail.hasNoLink_nil
    · exact t.hasNoLink_workingTrail
  cases trail with
  | nil => cases hd
  | cons e trail => exact hasNoLink_of_resolveSteps hsteps horigin e (List.mem_cons_self ..) _ hd

theorem exists_node?_eq_error_iff :
    (∃ e, t.node? p = .error e) ↔ t.isFile p = false ∧ t.isDirectory p = false := by
  rw [isFile, isDirectory]
  cases h : t.node? p with
  | error e => simp
  | ok node =>
    cases node with
    | link target => exact absurd h (t.node?_ne_link p target)
    | file content => simp
    | directory entries => simp

theorem isFile_of_isDirectory (h : t.isDirectory p = true) : t.isFile p = false := by
  obtain ⟨entries, hnode⟩ := isDirectory_iff.1 h
  rw [isFile, hnode]

/-! ## Searches that start at no directory -/

/-- **A search fails that starts from nowhere.** -/
theorem search_of_error {e : FileError} (h : t.node? p = .error e) :
    t.search p pattern = .error ⟨p, e⟩ := by
  rw [search, walk_of_error h]
  rfl

/-- **A search that starts at a regular file** finds this file, or nothing. -/
theorem search_of_file (h : t.isFile p = true) :
    t.search p pattern =
      .ok (if matchesName pattern ⟨p, startName p⟩ then (t.realPath? p).toList else []) := by
  obtain ⟨content, hnode⟩ := isFile_iff.1 h
  rw [search, walk_of_node? hnode]
  change Except.ok (List.filterMap _ [Entry.mk p (startName p)]) = _
  rw [List.filterMap_cons, List.filterMap_nil, h, Bool.and_true]
  cases matchesName pattern ⟨p, startName p⟩ with
  | false => rfl
  | true => cases t.realPath? p <;> rfl

end FileTree

/-! ## Above a path -/

section Above

variable {t : FileTree} {p : Path}

/-- What is found for one path, each file once. -/
theorem findTestFiles_singleton (t : FileTree) (p : Path) (pattern : Option String)
    (settings : Settings) : findTestFiles t [p] pattern settings =
      (findPathFiles t (pattern.getD settings.filenamePattern) p).map List.eraseDups := by
  rw [findTestFiles, List.isEmpty_cons, if_neg Bool.false_ne_true, List.mapM_cons, List.mapM_nil]
  cases findPathFiles t (pattern.getD settings.filenamePattern) p with
  | error e => rfl
  | ok files =>
    change Except.ok [files].flatten.eraseDups = _
    rw [List.flatten_singleton]
    rfl

/-- If nothing is at a path, its file name is searched for in the directory above. -/
theorem findPathFiles_of_nothing {pattern : String} (hfile : t.isFile p = false)
    (hdir : t.isDirectory p = false) : findPathFiles t pattern p =
      (t.search p.directoryAbove (p.ownPattern pattern)).mapError fun e =>
        .testFilesNotFound p.directoryAbove (p.ownPattern pattern) e.message := by
  have hplan : searchPlan t p pattern = (p.directoryAbove, p.ownPattern pattern) := by
    rw [searchPlan_eq, FileTree.searchDirectory, FileTree.searchPattern, hdir]
    rfl
  rw [findPathFiles, hfile, if_neg Bool.false_ne_true]
  simp only [hplan]
  cases t.search p.directoryAbove (p.ownPattern pattern) <;> rfl

/-- **What is found for a path at which nothing is.**  Files are found only if there is a directory
or a regular file above it, and all errors say that something does not exist.  If there is no
directory above it, it is an error that names the path above, the file name and the cause, exactly
if there is no regular file either; and a regular file above it is found if its name matches. -/
theorem findTestFiles_of_nothing (hfile : t.isFile p = false) (hdir : t.isDirectory p = false)
    (pattern : Option String) (settings : Settings) :
    ((∃ files, findTestFiles t [p] pattern settings = .ok files) →
        t.isDirectory p.directoryAbove = true ∨ t.isFile p.directoryAbove = true) ∧
      (∀ e, findTestFiles t [p] pattern settings = .error e → e.kind = .notFound) ∧
      (t.isDirectory p.directoryAbove = false →
        ((∃ cause, findTestFiles t [p] pattern settings =
            .error (.testFilesNotFound p.directoryAbove
              (p.ownPattern (pattern.getD settings.filenamePattern))
              (WalkError.message ⟨p.directoryAbove, cause⟩))) ↔
          t.isFile p.directoryAbove = false)) ∧
      (t.isFile p.directoryAbove = true →
        findTestFiles t [p] pattern settings =
          .ok (if FileTree.matchesName (p.ownPattern (pattern.getD settings.filenamePattern))
              ⟨p.directoryAbove, FileTree.startName p.directoryAbove⟩
            then (t.realPath? p.directoryAbove).toList else [])) := by
  rw [findTestFiles_singleton, findPathFiles_of_nothing hfile hdir]
  generalize p.ownPattern (pattern.getD settings.filenamePattern) = own
  cases hd : t.isDirectory p.directoryAbove with
  | true =>
    have hf := FileTree.isFile_of_isDirectory hd
    refine ⟨fun _ => .inl rfl, fun e he => ?_, nofun, by rw [hf]; nofun⟩
    cases hs : t.search p.directoryAbove own <;> rw [hs] at he <;> cases he
    rfl
  | false =>
    cases hf : t.isFile p.directoryAbove with
    | true =>
      -- The file is visited alone.
      rw [FileTree.search_of_file hf]
      refine ⟨fun _ => .inr rfl, nofun, fun _ => ⟨nofun, nofun⟩, fun _ => ?_⟩
      cases FileTree.matchesName own ⟨p.directoryAbove, FileTree.startName p.directoryAbove⟩ <;>
        cases t.realPath? p.directoryAbove <;> rfl
    | false =>
      obtain ⟨e, he⟩ := FileTree.exists_node?_eq_error_iff.2 ⟨hf, hd⟩
      rw [FileTree.search_of_error he]
      refine ⟨nofun, ?_, fun _ => ⟨fun _ => rfl, fun _ => ⟨e, rfl⟩⟩, nofun⟩
      rintro _ ⟨⟩
      rfl

end Above

/-! ## Two paths at which nothing is -/

/-- A path of which nothing is there, not even the directory above it. -/
def strayPath : Path := .ofString "/absent/test_*"

/-- A path that goes on from a suite file. -/
def overshotPath : Path := .ofString "/d/sub/test_a.rs/test_*"

/-- Nothing is below a name that is not there. -/
theorem node?_absent {p : Path} {rest : List Step}
    (hs : p.steps = .stay :: .enter (utf8 "absent") :: rest)
    (hb : 0 ∉ p.bytes ∧ ¬ greatestPathLength < p.bytes.length ∧ p.bytes ≠ [] ∧ p.isAbsolute) :
    nestedTree.node? p = .error .absent := by
  have hn : ¬ greatestNameLength < (utf8 "absent").length ∧ utf8 "d" ≠ utf8 "absent" := by
    decide
  simp [FileTree.node?, FileTree.resolve, FileTree.resolveAny, hb, hs, resolveSteps, Trail.node,
    lookupEntry, nestedTree, hn, Except.map]

theorem node?_strayPath : nestedTree.node? strayPath = .error .absent := by
  have hs : strayPath.steps = .stay :: .enter (utf8 "absent") :: [.enter (utf8 "test_*")] := by
    decide
  exact node?_absent hs (by decide)

theorem node?_above_strayPath : nestedTree.node? strayPath.directoryAbove = .error .absent := by
  have hs : strayPath.directoryAbove.steps = .stay :: .enter (utf8 "absent") :: [] := by
    decide
  exact node?_absent hs (by decide)

theorem node?_overshotPath : nestedTree.node? overshotPath = .error .notDirectory := by
  have hb : 0 ∉ overshotPath.bytes ∧ ¬ greatestPathLength < overshotPath.bytes.length ∧
      overshotPath.bytes ≠ [] ∧ overshotPath.isAbsolute := by
    decide
  have hs : overshotPath.steps = [.stay, .enter (utf8 "d"), .enter (utf8 "sub"),
      .enter (utf8 "test_a.rs"), .enter (utf8 "test_*")] := by
    decide
  have hn : ¬ greatestNameLength < (utf8 "d").length ∧
      ¬ greatestNameLength < (utf8 "sub").length ∧
      ¬ greatestNameLength < (utf8 "test_a.rs").length := by
    decide
  simp [FileTree.node?, FileTree.resolve, FileTree.resolveAny, hb, hs, resolveSteps, Trail.node,
    lookupEntry, nestedTree, nestedNode, hn, Except.map]

theorem directoryAbove_overshotPath : overshotPath.directoryAbove = nestedFile := by decide

/-- Both paths have the same file name. -/
theorem ownPattern_eq {p : Path} (h : p.fileName? = some (utf8 "test_*")) (pattern : String) :
    p.ownPattern pattern = "test_*" := by
  rw [Path.ownPattern, h, Option.map_some, Option.getD_some, Utf8.showBytes_utf8]

theorem matchesName_nestedFile :
    FileTree.matchesName "test_*" ⟨nestedFile, FileTree.startName nestedFile⟩ = true := by
  have hname : FileTree.startName nestedFile = utf8 "test_a.rs" := by decide
  have hmatch : wildcardMatch "test_*" "test_a.rs" = true := by cbv
  rw [FileTree.matchesName, hname, Utf8.text?_utf8]
  exact hmatch

/-- Where no directory is above a path, finding fails. -/
theorem findTestFiles_strayPath :
    nestedTree.isFile strayPath = false ∧ nestedTree.isDirectory strayPath = false ∧
      nestedTree.isDirectory strayPath.directoryAbove = false ∧
      ∃ cause, findTestFiles nestedTree [strayPath] none (.defaults ⟨[]⟩) =
        .error (.testFilesNotFound (.ofString "/absent") "test_*"
          (WalkError.message ⟨.ofString "/absent", cause⟩)) := by
  obtain ⟨hfile, hdir⟩ := FileTree.exists_node?_eq_error_iff.1 ⟨_, node?_strayPath⟩
  obtain ⟨hfile', hdir'⟩ := FileTree.exists_node?_eq_error_iff.1 ⟨_, node?_above_strayPath⟩
  have habove : strayPath.directoryAbove = .ofString "/absent" := by decide
  have hown := ownPattern_eq (p := strayPath) (by decide) Settings.defaultFilenamePattern
  obtain ⟨-, -, hnone, -⟩ := findTestFiles_of_nothing hfile hdir none (.defaults ⟨[]⟩)
  refine ⟨hfile, hdir, hdir', ?_⟩
  rw [← habove, ← hown]
  exact (hnone hdir').2 hfile'

/-- **A path that goes on from a suite file finds this file**, though no directory is above it. -/
theorem findTestFiles_overshotPath :
    nestedTree.isFile overshotPath = false ∧ nestedTree.isDirectory overshotPath = false ∧
      nestedTree.isDirectory overshotPath.directoryAbove = false ∧
      findTestFiles nestedTree [overshotPath] none (.defaults ⟨[]⟩) = .ok [nestedFile] := by
  obtain ⟨hfile, hdir⟩ := FileTree.exists_node?_eq_error_iff.1 ⟨_, node?_overshotPath⟩
  refine ⟨hfile, hdir, ?_, ?_⟩
  · rw [directoryAbove_overshotPath, ← Bool.not_eq_true]
    intro hd
    exact absurd ((FileTree.isFile_of_isDirectory hd).symm.trans isFile_nestedFile)
      Bool.false_ne_true
  · have hown := ownPattern_eq (p := overshotPath) (by decide) Settings.defaultFilenamePattern
    rw [findTestFiles_singleton, findPathFiles_of_nothing hfile hdir, directoryAbove_overshotPath]
    change Except.map _ (Except.mapError _ (nestedTree.search nestedFile
      (overshotPath.ownPattern Settings.defaultFilenamePattern))) = _
    rw [hown, FileTree.search_of_file isFile_nestedFile, matchesName_nestedFile, if_pos rfl,
      realPath?_nestedFile]
    rfl

end SuitePool
