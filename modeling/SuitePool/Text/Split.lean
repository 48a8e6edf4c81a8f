/-!
# Cutting at separators

Test ids are cut at dots, paths at slashes and messages at line feeds.  `parts` cuts at every
separator and always yields at least one part; `splitLast` cuts once, at the last one.

## Main definitions

* `cut`, `parts`, `joinWith`
* `splitLast`

## Main results

* `joinWith_parts`: joining the parts gives the list back.
* `splitLast_eq_some`: what `splitLast` finds.
-/

namespace SuitePool.Text

variable {α : Type} [DecidableEq α]

/-- Cuts a list at every separator: the first part, and the further ones. -/
def cut (sep : α) : List α → List α × List (List α)
  | [] => ([], [])
  | a :: as =>
    let (part, more) := cut sep as
    if a = sep then ([], part :: more) else (a :: part, more)

/-- The parts of a list between separators. -/
def parts (sep : α) (as : List α) : List (List α) := (cut sep as).1 :: (cut sep as).2

omit [DecidableEq α] in
/-- Parts joined by a separator. -/
def joinWith (sep : α) : List (List α) → List α
  | [] => []
  | [part] => part
  | part :: more => part ++ sep :: joinWith sep more

theorem joinWith_parts (sep : α) (as : List α) : joinWith sep (parts sep as) = as := by
  induction as with
  | nil => rfl
  | cons a as ih =>
    simp only [parts] at ih ⊢
    by_cases h : a = sep
    · simp only [cut, h, if_true, joinWith, List.nil_append]
      rw [ih]
    · simp only [cut, h, if_false]
      cases hm : (cut sep as).2 with
      | nil => rw [hm] at ih; simpa [joinWith] using ih
      | cons p ps => rw [hm] at ih; simpa [joinWith] using ih

/-- Cuts a list at its last separator, if there is one. -/
def splitLast (sep : α) : List α → Option (List α × List α)
  | [] => none
  | a :: as =>
    match splitLast sep as with
    | some (before, after) => some (a :: before, after)
    | none => if a = sep then some ([], as) else none

/-- Nothing is found in a list without separators, and only there. -/
theorem splitLast_eq_none_iff {sep : α} {as : List α} :
    splitLast sep as = none ↔ sep ∉ as := by
  induction as with
  | nil => simp [splitLast]
  | cons a as ih =>
    cases h : splitLast sep as with
    | some p =>
      have hmem : sep ∈ as := Decidable.byContradiction fun hn => by simp [ih.2 hn] at h
      simp [splitLast, h, hmem]
    | none =>
      have hmem : sep ∉ as := ih.1 h
      by_cases ha : a = sep
      · simp [splitLast, h, ha]
      · simp [splitLast, h, ha, hmem, Ne.symm ha]

/-- What is found is a cut at a separator with none behind it. -/
theorem splitLast_eq_some {sep : α} {as before after : List α}
    (h : splitLast sep as = some (before, after)) :
    as = before ++ sep :: after ∧ sep ∉ after := by
  induction as generalizing before with
  | nil => simp [splitLast] at h
  | cons a as ih =>
    cases hs : splitLast sep as with
    | some p =>
      simp only [splitLast, hs, Option.some.injEq, Prod.mk.injEq] at h
      obtain ⟨rfl, rfl⟩ := h
      have := ih hs
      exact ⟨by simp [← this.1], this.2⟩
    | none =>
      by_cases ha : a = sep
      · simp only [splitLast, hs, ha, if_true, Option.some.injEq, Prod.mk.injEq] at h
        obtain ⟨rfl, rfl⟩ := h
        exact ⟨by simp [ha], splitLast_eq_none_iff.1 hs⟩
      · simp [splitLast, hs, ha] at h

end SuitePool.Text
