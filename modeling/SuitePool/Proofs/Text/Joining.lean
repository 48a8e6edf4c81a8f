import Mathlib.Data.List.Basic
import Mathlib.Data.List.Nodup
import Mathlib.Tactic.Common
import SuitePool.Text.Split

/-!
# Joining and cutting again

Parts that hold no separator are found again when they are joined and cut, and so they can be told
from what they are joined to.

## Main results

* `parts_joinWith`: what is joined is cut into the same parts.
* `joinWith_injective`, `intercalate_injective`: what is joined tells its parts.
* `append_sep_inj`: the first separator tells what stands before it.
* `splitLast_append`: the last part is found behind the last separator.
* `nodup_eraseDups`: nothing is left twice where repetitions were erased.
-/

namespace SuitePool.Text

variable {α : Type} [DecidableEq α] {sep : α}

/-! ## Cutting -/

theorem parts_cons_sep (sep : α) (as : List α) : parts sep (sep :: as) = [] :: parts sep as := by
  simp [parts, cut]

/-- What stands before a separator and what stands behind it are cut on their own. -/
theorem parts_append (as bs : List α) :
    parts sep (as ++ sep :: bs) = parts sep as ++ parts sep bs := by
  induction as with
  | nil => exact parts_cons_sep sep bs
  | cons a as ih =>
    simp only [parts, List.cons_append, List.cons.injEq] at ih
    by_cases ha : a = sep
    · simp [parts, cut, ha, ih]
    · simp [parts, cut, ha, ih]

/-- Without a separator nothing is cut off. -/
theorem parts_of_not_mem {as : List α} (h : sep ∉ as) : parts sep as = [as] := by
  induction as with
  | nil => rfl
  | cons a as ih =>
    rw [List.mem_cons, not_or] at h
    have hp := ih h.2
    simp only [parts, List.cons.injEq] at hp
    simp [parts, cut, Ne.symm h.1, hp]

/-- A part is cut off at the first separator. -/
theorem parts_append_sep {part : List α} (h : sep ∉ part) (as : List α) :
    parts sep (part ++ sep :: as) = part :: parts sep as := by
  rw [parts_append, parts_of_not_mem h, List.singleton_append]

/-- No part holds a separator. -/
theorem not_mem_of_mem_parts {as part : List α} (h : part ∈ parts sep as) : sep ∉ part := by
  induction as generalizing part with
  | nil =>
    rw [List.mem_singleton.1 h]
    exact List.not_mem_nil
  | cons a as ih =>
    by_cases ha : a = sep
    · subst ha
      rw [parts_cons_sep, List.mem_cons] at h
      rcases h with rfl | h
      · exact List.not_mem_nil
      · exact ih h
    · simp only [parts, cut, ha, if_false, List.mem_cons] at h ih
      rcases h with rfl | h
      · rw [List.mem_cons, not_or]
        exact ⟨Ne.symm ha, ih (.inl rfl)⟩
      · exact ih (.inr h)

/-- A part holds only what the list holds. -/
theorem mem_of_mem_parts {a : α} {as part : List α} (h : part ∈ parts sep as) (ha : a ∈ part) :
    a ∈ as := by
  induction as generalizing part with
  | nil =>
    rw [List.mem_singleton.1 h] at ha
    exact ha
  | cons b as ih =>
    by_cases hb : b = sep
    · rw [hb, parts_cons_sep, List.mem_cons] at h
      rcases h with rfl | h
      · cases ha
      · exact List.mem_cons_of_mem _ (ih h ha)
    · simp only [parts, cut, hb, if_false, List.mem_cons] at h ih
      rcases h with rfl | h
      · rcases List.mem_cons.1 ha with rfl | ha
        · exact List.mem_cons_self ..
        · exact List.mem_cons_of_mem _ (ih (.inl rfl) ha)
      · exact List.mem_cons_of_mem _ (ih (.inr h) ha)

/-- **What is joined is cut into the same parts**, if none of them holds a separator. -/
theorem parts_joinWith {ps : List (List α)} (hne : ps ≠ []) (h : ∀ p ∈ ps, sep ∉ p) :
    parts sep (joinWith sep ps) = ps := by
  induction ps with
  | nil => exact absurd rfl hne
  | cons p ps ih =>
    rw [List.forall_mem_cons] at h
    cases ps with
    | nil => exact parts_of_not_mem h.1
    | cons q ps =>
      rw [joinWith, parts_append_sep h.1, ih (by simp) h.2]
      simp

/-- **What is joined tells its parts.** -/
theorem joinWith_injective {ps qs : List (List α)} (hp : ps ≠ []) (hq : qs ≠ [])
    (hps : ∀ p ∈ ps, sep ∉ p) (hqs : ∀ q ∈ qs, sep ∉ q)
    (h : joinWith sep ps = joinWith sep qs) : ps = qs := by
  rw [← parts_joinWith hp hps, h, parts_joinWith hq hqs]

/-- What stands before the first separator and what stands behind it are told apart. -/
theorem append_sep_inj {as bs xs ys : List α}
    (ha : sep ∉ as) (hb : sep ∉ bs) (h : as ++ sep :: xs = bs ++ sep :: ys) :
    as = bs ∧ xs = ys := by
  have hparts := congrArg (parts sep) h
  rw [parts_append_sep ha, parts_append_sep hb] at hparts
  obtain rfl := (List.cons.inj hparts).1
  exact ⟨rfl, (List.cons.inj (List.append_cancel_left h)).2⟩

/-- Nothing but the last part comes behind the last separator. -/
theorem splitLast_append {after : List α} (h : sep ∉ after) (before : List α) :
    splitLast sep (before ++ sep :: after) = some (before, after) := by
  induction before with
  | nil =>
    rw [List.nil_append, splitLast, splitLast_eq_none_iff.2 h]
    simp
  | cons a before ih => rw [List.cons_append, splitLast, ih]

omit [DecidableEq α] in
/-- What is joined holds separators and what the parts hold. -/
theorem mem_joinWith {a : α} {ps : List (List α)} (h : a ∈ joinWith sep ps) :
    a = sep ∨ ∃ p ∈ ps, a ∈ p := by
  induction ps with
  | nil => cases h
  | cons p ps ih =>
    cases ps with
    | nil => exact .inr ⟨p, List.mem_cons_self .., h⟩
    | cons q ps =>
      rw [joinWith, List.mem_append, List.mem_cons] at h
      · rcases h with h | h | h
        · exact .inr ⟨p, List.mem_cons_self .., h⟩
        · exact .inl h
        · rcases ih h with h | ⟨r, hr, ha⟩
          · exact .inl h
          · exact .inr ⟨r, List.mem_cons_of_mem _ hr, ha⟩
      · simp

/-! ## Joining texts -/

theorem joinWith_eq_intercalate {β : Type} (sep : β) (ps : List (List β)) :
    joinWith sep ps = [sep].intercalate ps := by
  induction ps with
  | nil => rfl
  | cons p ps ih =>
    cases ps with
    | nil => simp [joinWith]
    | cons q ps =>
      rw [joinWith, List.intercalate_cons_cons, ih, List.append_assoc, List.singleton_append]
      simp

/-- **Texts that are joined with dots are told by what they are joined to**, if they hold none. -/
theorem intercalate_injective {ss ts : List String} (hs : ss ≠ []) (ht : ts ≠ [])
    (hss : ∀ s ∈ ss, '.' ∉ s.toList) (hts : ∀ t ∈ ts, '.' ∉ t.toList)
    (h : ".".intercalate ss = ".".intercalate ts) : ss = ts := by
  have hl := congrArg String.toList h
  rw [String.toList_intercalate, String.toList_intercalate,
    show ".".toList = ['.'] from rfl, ← joinWith_eq_intercalate, ← joinWith_eq_intercalate] at hl
  have hinj := joinWith_injective (by simpa using hs) (by simpa using ht)
    (List.forall_mem_map.2 hss) (List.forall_mem_map.2 hts) hl
  exact List.map_injective_iff.2 (fun _ _ => String.toList_inj.1) hinj

/-! ## Repetitions -/

/-- **Nothing is left twice where repetitions were erased.** -/
theorem nodup_eraseDups (as : List α) : as.eraseDups.Nodup := by
  induction h : as.length using Nat.strongRecOn generalizing as with
  | ind n ih =>
    cases as with
    | nil => simp
    | cons a as =>
      rw [List.eraseDups_cons, List.nodup_cons, List.mem_eraseDups]
      refine ⟨by simp, ih _ ?_ _ rfl⟩
      rw [← h, List.length_cons]
      exact Nat.lt_succ_of_le (List.length_filter_le ..)

end SuitePool.Text
