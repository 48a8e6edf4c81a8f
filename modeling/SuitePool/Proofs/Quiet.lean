import Mathlib.Data.List.Basic
import Mathlib.Tactic.Common
import SuitePool.Proofs.Hosts
import SuitePool.Proofs.Worker

/-!
# Suites that print no record separator

Whether a task is quiet is a question about everything that is printed during it, taken as one
stream: no hook alone may print a marker, and two of them may print one together.  But a marker
starts with a record separator, and so a registry none of whose hooks prints this byte has quiet
tasks only.

## Main definitions

* `separator`: the record separator.
* `Suite.AvoidsSeparator`, `Registry.AvoidsSeparator`: no hook prints it.

## Main results

* `Task.isQuiet_of_avoidsSeparator`: all tasks of such a registry are quiet.
-/

namespace SuitePool

open Text

variable {σ ε φ α β : Type}

/-- The record separator. -/
def separator : UInt8 := 0x1e

/-- Bytes without a record separator hold no marker. -/
theorem unmarked_of_separator_not_mem {bs : Bytes} (h : separator ∉ bs) : Unmarked bs := by
  intro hm
  -- The marker starts with a separator.
  exact h (hm.subset (by decide))

/-! ## Code that prints no separator -/

/-- Does an event print no record separator? -/
def Event.AvoidsSeparator (e : Event) : Prop := separator ∉ printedBytes [e]

/-- What no event prints is not printed. -/
theorem not_mem_printedBytes {es : List Event} (h : ∀ e ∈ es, e.AvoidsSeparator) :
    separator ∉ printedBytes es := by
  intro hm
  obtain ⟨e, he, hb⟩ := List.mem_flatMap.1 hm
  exact h e he (List.mem_flatMap.2 ⟨e, List.mem_singleton_self e, hb⟩)

/-- **Does no code of a suite print a record separator?** -/
abbrev Suite.AvoidsSeparator (s : Suite σ) (h : Host) : Prop := s.Prints (separator ∉ ·) h

/-- **Does no suite code print a record separator?** -/
def Registry.AvoidsSeparator (r : Registry σ) : Prop :=
  ∀ s, r.HasSuite s → ∀ h, s.AvoidsSeparator h

theorem Suite.AvoidsSeparator.has {s : Suite σ} {h : Host} (hs : s.AvoidsSeparator h) :
    s.Has (fun α (x : Exec ε α) => ∀ e ∈ x.events, e.AvoidsSeparator) h :=
  Suite.Prints.has (fun _ _ _ => List.not_mem_nil)
    (fun bs hbs => by simpa [Event.AvoidsSeparator, printedBytes] using hbs) hs

/-- **All tasks are quiet** if no hook prints a record separator. -/
theorem Task.isQuiet_of_avoidsSeparator {site : Site σ} (hr : site.registry.AvoidsSeparator)
    (t : Task) : t.IsQuiet site := by
  have hP := Exec.isCleanable_forall_events (ε := Error) Event.AvoidsSeparator
  apply unmarked_of_separator_not_mem
  apply not_mem_printedBytes
  cases t with
  | discoverFile file modulePath =>
    refine Exec.isCleanable_forall_events _ |>.bind ?_ fun _ _ => List.forall_mem_nil _
    exact hP.discoverFile (fun _ => List.forall_mem_nil _)
      (fun s hs name resolve hm => ((hr s hs site.host).has.members _ hm).1)
      (fun w => List.forall_mem_singleton.2 List.not_mem_nil) site.tree modulePath file
  | runTestIds ids =>
    refine Exec.isCleanable_forall_events _ |>.bind ?_ fun _ _ => List.forall_mem_nil _
    exact hP.runIds (fun _ => List.forall_mem_nil _) (fun s hs => (hr s hs site.host).has) ids

/-- The same in all workers. -/
theorem Task.isQuiet_forSlot {site : Site σ} (hr : site.registry.AvoidsSeparator) (t : Task)
    (i : Nat) : t.IsQuiet (site.forSlot i) :=
  isQuiet_of_avoidsSeparator (show (site.forSlot i).registry.AvoidsSeparator from hr) t

end SuitePool
