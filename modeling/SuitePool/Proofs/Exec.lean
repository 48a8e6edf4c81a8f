import Mathlib.Data.List.Basic
import Mathlib.Data.List.Forall2
import Mathlib.Tactic.Common
import SuitePool.Exec

/-!
# How composed code ends

Code is put together from pieces, and its ending is that of the first piece that does not finish,
or of the last one.  Two relations follow the composition: two pieces of code *end alike* if they
end in the same way, with related values if they finish, and a piece of code ends *orderly* if it
finishes or fails.  Events and times are left out of both.

## Main definitions

* `Ending.Alike`, `Exec.Alike`: ending alike.
* `Ending.IsOrderly`: finishing or failing.
* `Exec.Shows`: all that is seen of a piece of code, and how it ends.
* `Exec.IsComposable`, `Exec.IsCleanable`: a property of code that composition keeps, and cleaning
  up.

## Main results

* `bind_eq_ok_iff`: what a sequence of two steps comes to.
* `exists_forall₂_iff`, `mapM_eq_ok_iff`: lists that are related member by member.
* `Exec.Alike.bind`, `Exec.Alike.foldlM`, `Exec.ending_mapM_congr`: composed code ends alike if its
  pieces do.
* `Exec.finished_of_bind`, `Exec.failed_of_bind`, `Exec.finished_of_mapM`, `Exec.failed_of_mapM`:
  what composed code that finished or failed is made of.
* `Exec.finished_mapM_iff`: when a list of pieces finishes, and with what.
* `Exec.IsComposable.foldlM`, `Exec.IsComposable.mapM`: what composition keeps, folds and lists of
  pieces keep.
* `Exec.isCleanable_isOrderly`, `Exec.isCleanable_not_isPanic`, `Exec.isCleanable_not_isFailure`,
  `Exec.isCleanable_forall_events`: composed code ends orderly, does not panic or fail, or shows
  only certain events, if its pieces do.
-/

namespace SuitePool

variable {ε φ α β γ δ : Type}

/-! ## Endings -/

/-- **Ending alike**, with related values. -/
inductive Ending.Alike (R : α → β → Prop) : Ending ε α → Ending ε β → Prop where
  /-- Both finish. -/
  | finished {a : α} {b : β} (h : R a b) : Alike R (.finished a) (.finished b)
  /-- Both fail with one error. -/
  | failed (e : ε) : Alike R (.failed e) (.failed e)
  /-- Both panic with one text. -/
  | panicked (message : Option String) : Alike R (.panicked message) (.panicked message)
  /-- Both end their process with one code. -/
  | exited (code : UInt8) : Alike R (.exited code) (.exited code)

/-- **Finishing or failing.** -/
inductive Ending.IsOrderly : Ending ε α → Prop where
  /-- With a value. -/
  | finished (a : α) : IsOrderly (.finished a)
  /-- With an error. -/
  | failed (e : ε) : IsOrderly (.failed e)

/-- Does code end its process? -/
def Ending.isExit : Ending ε α → Bool
  | exited _ => true
  | _ => false

/-- Does code panic? -/
def Ending.isPanic : Ending ε α → Bool
  | panicked _ => true
  | _ => false

/-- Does code fail? -/
def Ending.isFailure : Ending ε α → Bool
  | failed _ => true
  | _ => false

/-- Code without a value and without errors panics, or ends its process.  So may any other. -/
def Ending.ofEmpty : Ending Empty Empty → Ending ε α
  | panicked message => .panicked message
  | exited code => .exited code

theorem Ending.isPanic_ofEmpty (e : Ending Empty Empty) :
    (e.ofEmpty : Ending ε α).isPanic = e.isPanic := by
  cases e with
  | finished a => exact a.elim
  | failed e => exact e.elim
  | _ => rfl

theorem Ending.not_isOrderly_ofEmpty (e : Ending Empty Empty) :
    ¬ (e.ofEmpty : Ending ε α).IsOrderly := by
  cases e with
  | finished a => exact a.elim
  | failed e => exact e.elim
  | panicked m => rintro ⟨⟩
  | exited c => rintro ⟨⟩

/-- Code that does not fail finishes, unless it panics or ends its process. -/
theorem Ending.cases_of_not_isFailure {e : Ending ε α} (h : e.isFailure = false) :
    (∃ a, e = .finished a) ∨ ∃ b : Ending Empty Empty, e = b.ofEmpty := by
  cases e with
  | finished a => exact .inl ⟨a, rfl⟩
  | failed e => cases h
  | panicked m => exact .inr ⟨.panicked m, rfl⟩
  | exited c => exact .inr ⟨.exited c, rfl⟩

theorem Ending.IsOrderly.isPanic {e : Ending ε α} (h : e.IsOrderly) : e.isPanic = false := by
  cases h <;> rfl

theorem Ending.Alike.mono {R S : α → β → Prop} {e : Ending ε α} {f : Ending ε β}
    (h : e.Alike R f) (hRS : ∀ a b, R a b → S a b) : e.Alike S f := by
  cases h with
  | finished h => exact .finished (hRS _ _ h)
  | failed e => exact .failed e
  | panicked m => exact .panicked m
  | exited c => exact .exited c

theorem Ending.alike_eq_iff {e f : Ending ε α} : e.Alike Eq f ↔ e = f := by
  constructor
  · rintro (rfl | _ | _ | _) <;> rfl
  · rintro rfl
    cases e with
    | finished a => exact .finished rfl
    | failed e => exact .failed e
    | panicked m => exact .panicked m
    | exited c => exact .exited c

/-- What a sequence comes to that comes to a value. -/
theorem bind_eq_ok_iff {x : Except ε α} {f : α → Except ε β} {b : β} :
    x >>= f = .ok b ↔ ∃ a, x = .ok a ∧ f a = .ok b := by
  cases x <;> simp [bind, Except.bind]

/-! ## Lists that are related member by member -/

section Lists

variable {R : α → β → Prop} {as : List α} {bs : List β}

theorem exists_of_mem_forall₂ (h : List.Forall₂ R as bs) : ∀ a ∈ as, ∃ b, R a b := by
  induction h with
  | nil => simp
  | cons h _ ih =>
    rw [List.forall_mem_cons]
    exact ⟨⟨_, h⟩, ih⟩

theorem exists_mem_of_forall₂ (h : List.Forall₂ R as bs) : ∀ b ∈ bs, ∃ a ∈ as, R a b := by
  induction h with
  | nil => simp
  | cons h _ ih =>
    rw [List.forall_mem_cons]
    refine ⟨⟨_, List.mem_cons_self .., h⟩, fun b hb => ?_⟩
    obtain ⟨a, ha, hr⟩ := ih b hb
    exact ⟨a, List.mem_cons_of_mem _ ha, hr⟩

/-- Something is related to a list if something is related to each member. -/
theorem exists_forall₂_iff : (∃ bs, List.Forall₂ R as bs) ↔ ∀ a ∈ as, ∃ b, R a b := by
  constructor
  · rintro ⟨_, h⟩
    exact exists_of_mem_forall₂ h
  · intro h
    induction as with
    | nil => exact ⟨[], .nil⟩
    | cons a as ih =>
      rw [List.forall_mem_cons] at h
      obtain ⟨⟨b, hb⟩, has⟩ := h
      obtain ⟨bs, hbs⟩ := ih has
      exact ⟨b :: bs, .cons hb hbs⟩

/-- What a list comes to if each member comes to a value or an error. -/
theorem mapM_eq_ok_iff {f : α → Except ε β} :
    as.mapM f = .ok bs ↔ List.Forall₂ (fun a b => f a = .ok b) as bs := by
  induction as generalizing bs with
  | nil =>
    rw [List.mapM_nil, List.forall₂_nil_left_iff]
    exact ⟨fun h => (Except.ok.inj h).symm, fun h => h ▸ rfl⟩
  | cons a as ih =>
    rw [List.mapM_cons, bind_eq_ok_iff, List.forall₂_cons_left_iff]
    constructor
    · rintro ⟨c, hf, h⟩
      obtain ⟨cs, hr, h⟩ := bind_eq_ok_iff.1 h
      exact ⟨c, cs, hf, ih.1 hr, (Except.ok.inj h).symm⟩
    · rintro ⟨c, cs, hf, hr, rfl⟩
      exact ⟨c, hf, bind_eq_ok_iff.2 ⟨cs, ih.2 hr, rfl⟩⟩

end Lists

namespace Exec

/-- Do two pieces of code end alike? -/
def Alike (R : α → β → Prop) (x : Exec ε α) (y : Exec ε β) : Prop := x.ending.Alike R y.ending

theorem alike_eq_iff {x y : Exec ε α} : x.Alike Eq y ↔ x.ending = y.ending :=
  Ending.alike_eq_iff

theorem alike_pure {R : α → β → Prop} {a : α} {b : β} (h : R a b) :
    (pure a : Exec ε α).Alike R (pure b) :=
  .finished h

/-! ## Composition -/

theorem ending_bind_of_finished {x : Exec ε α} {a : α} (h : x.ending = .finished a)
    (f : α → Exec ε β) : (x >>= f).ending = (f a).ending := by
  simp [Bind.bind, Exec.bind, h]

theorem ending_bind_of_failed {x : Exec ε α} {e : ε} (h : x.ending = .failed e)
    (f : α → Exec ε β) : (x >>= f).ending = .failed e := by
  simp [Bind.bind, Exec.bind, h]

theorem ending_bind_of_panicked {x : Exec ε α} {m : Option String} (h : x.ending = .panicked m)
    (f : α → Exec ε β) : (x >>= f).ending = .panicked m := by
  simp [Bind.bind, Exec.bind, h]

theorem ending_bind_of_exited {x : Exec ε α} {c : UInt8} (h : x.ending = .exited c)
    (f : α → Exec ε β) : (x >>= f).ending = .exited c := by
  simp [Bind.bind, Exec.bind, h]

/-- **Composed code ends alike** if its pieces do. -/
theorem Alike.bind {R : α → β → Prop} {S : γ → δ → Prop} {x : Exec ε α} {y : Exec ε β}
    {f : α → Exec ε γ} {g : β → Exec ε δ} (h : x.Alike R y)
    (hf : ∀ a b, R a b → (f a).Alike S (g b)) : (x >>= f).Alike S (y >>= g) := by
  unfold Alike at h hf ⊢
  -- The first pieces end in the same one of four ways, and only a value lets the others go on.
  cases hx : x.ending <;> cases hy : y.ending <;> rw [hx, hy] at h <;> cases h
  case finished.finished a b hab =>
    rw [ending_bind_of_finished hx, ending_bind_of_finished hy]
    exact hf a b hab
  case failed.failed e =>
    rw [ending_bind_of_failed hx, ending_bind_of_failed hy]
    exact .failed e
  case panicked.panicked m =>
    rw [ending_bind_of_panicked hx, ending_bind_of_panicked hy]
    exact .panicked m
  case exited.exited c =>
    rw [ending_bind_of_exited hx, ending_bind_of_exited hy]
    exact .exited c

theorem ending_bind_congr {x y : Exec ε α} {f g : α → Exec ε β} (h : x.ending = y.ending)
    (hf : ∀ a, (f a).ending = (g a).ending) : (x >>= f).ending = (y >>= g).ending := by
  refine alike_eq_iff.1 ((alike_eq_iff.2 h).bind ?_)
  rintro a b rfl
  exact alike_eq_iff.2 (hf a)

/-- What follows a piece of code has to end alike only behind its values. -/
theorem ending_bind_congr_right (x : Exec ε α) {f g : α → Exec ε β}
    (hf : ∀ a, x.ending = .finished a → (f a).ending = (g a).ending) :
    (x >>= f).ending = (x >>= g).ending := by
  cases hx : x.ending with
  | finished a => rw [ending_bind_of_finished hx, ending_bind_of_finished hx, hf a hx]
  | failed e => rw [ending_bind_of_failed hx, ending_bind_of_failed hx]
  | panicked m => rw [ending_bind_of_panicked hx, ending_bind_of_panicked hx]
  | exited c => rw [ending_bind_of_exited hx, ending_bind_of_exited hx]

/-- **A fold ends alike** if its steps do. -/
theorem Alike.foldlM {R : β → γ → Prop} {f : β → α → Exec ε β} {g : γ → α → Exec ε γ} :
    ∀ (as : List α), (∀ b c, R b c → ∀ a ∈ as, (f b a).Alike R (g c a)) →
      ∀ {b : β} {c : γ}, R b c → (as.foldlM f b).Alike R (as.foldlM g c)
  | [], _, _, _, h => alike_pure h
  | a :: as, hf, b, c, h => by
    rw [List.foldlM_cons, List.foldlM_cons]
    apply (hf b c h a (List.mem_cons_self ..)).bind
    intro b c h
    exact Alike.foldlM as (fun b c h a ha => hf b c h a (List.mem_cons_of_mem _ ha)) h

theorem ending_mapM_congr {f g : α → Exec ε β} (as : List α)
    (h : ∀ a ∈ as, (f a).ending = (g a).ending) : (as.mapM f).ending = (as.mapM g).ending := by
  induction as with
  | nil => rfl
  | cons a as ih =>
    rw [List.forall_mem_cons] at h
    rw [List.mapM_cons, List.mapM_cons]
    exact ending_bind_congr h.1 fun _ => ending_bind_congr (ih h.2) fun _ => rfl

/-! ## What code shows -/

/-- **Are these the events of the code and is this its ending?** -/
structure Shows (x : Exec ε α) (es : List Event) (e : Ending ε α) : Prop where
  /-- What is seen of it. -/
  events : x.events = es
  /-- How it ends. -/
  ending : x.ending = e

namespace Shows

variable {x : Exec ε α} {f : α → Exec ε β} {es fs : List Event}

/-- Code that finishes is followed by the next piece. -/
theorem bind {a : α} {e : Ending ε β} (h : x.Shows es (.finished a)) (hf : (f a).Shows fs e) :
    (x >>= f).Shows (es ++ fs) e := by
  constructor
  · simp only [Bind.bind, Exec.bind, h.ending, h.events, hf.events]
  · rw [ending_bind_of_finished h.ending, hf.ending]

theorem bind_failed {e : ε} (h : x.Shows es (.failed e)) : (x >>= f).Shows es (.failed e) := by
  constructor
  · simp only [Bind.bind, Exec.bind, h.ending, h.events]
  · exact ending_bind_of_failed h.ending f

theorem bind_ofEmpty {e : Ending Empty Empty} (h : x.Shows es e.ofEmpty) :
    (x >>= f).Shows es e.ofEmpty := by
  cases e with
  | finished a => exact a.elim
  | failed e => exact e.elim
  | panicked m =>
    refine ⟨?_, ending_bind_of_panicked h.ending f⟩
    simp only [Bind.bind, Exec.bind, h.ending, h.events, Ending.ofEmpty]
  | exited c =>
    refine ⟨?_, ending_bind_of_exited h.ending f⟩
    simp only [Bind.bind, Exec.bind, h.ending, h.events, Ending.ofEmpty]

theorem bind_exited {c : UInt8} (h : x.Shows es (.exited c)) :
    (x >>= f).Shows es (.exited c) :=
  bind_ofEmpty (e := .exited c) h

/-- What is not seen may follow. -/
theorem bind_pure {a : α} (h : x.Shows es (.finished a)) {b : β} (hf : f a = Pure.pure b) :
    (x >>= f).Shows es (.finished b) := by
  rw [← List.append_nil es]
  exact h.bind (hf ▸ ⟨rfl, rfl⟩)

end Shows

/-! ## Taking composed code apart -/

theorem finished_ofExcept {r : Except ε α} {a : α} (h : (ofExcept r).ending = .finished a) :
    r = .ok a := by
  cases r with
  | ok b =>
    cases h
    rfl
  | error e => cases h

/-- Composed code finishes if both pieces do. -/
theorem finished_of_bind {x : Exec ε α} {f : α → Exec ε β} {b : β}
    (h : (x >>= f).ending = .finished b) :
    ∃ a, x.ending = .finished a ∧ (f a).ending = .finished b := by
  cases hx : x.ending with
  | finished a => exact ⟨a, rfl, by rw [← h, ending_bind_of_finished hx]⟩
  | failed e => rw [ending_bind_of_failed hx] at h; cases h
  | panicked m => rw [ending_bind_of_panicked hx] at h; cases h
  | exited c => rw [ending_bind_of_exited hx] at h; cases h

theorem finished_bind_iff {x : Exec ε α} {f : α → Exec ε β} {b : β} :
    (x >>= f).ending = .finished b ↔ ∃ a, x.ending = .finished a ∧ (f a).ending = .finished b :=
  ⟨finished_of_bind, fun ⟨_, hx, hf⟩ => (ending_bind_of_finished hx f).trans hf⟩

/-- Composed code fails if a piece does, and those before it finish. -/
theorem failed_of_bind {x : Exec ε α} {f : α → Exec ε β} {e : ε}
    (h : (x >>= f).ending = .failed e) :
    x.ending = .failed e ∨ ∃ a, x.ending = .finished a ∧ (f a).ending = .failed e := by
  cases hx : x.ending with
  | finished a => exact .inr ⟨a, rfl, by rw [← h, ending_bind_of_finished hx]⟩
  | failed e' =>
    rw [ending_bind_of_failed hx] at h
    cases h
    exact .inl rfl
  | panicked m => rw [ending_bind_of_panicked hx] at h; cases h
  | exited c => rw [ending_bind_of_exited hx] at h; cases h

theorem finished_of_map {x : Exec ε α} {f : α → β} {b : β}
    (h : (f <$> x).ending = .finished b) : ∃ a, x.ending = .finished a ∧ f a = b := by
  rw [← bind_pure_comp] at h
  obtain ⟨a, ha, h⟩ := finished_of_bind h
  cases h
  exact ⟨a, ha, rfl⟩

theorem failed_of_map {x : Exec ε α} {f : α → β} {e : ε} (h : (f <$> x).ending = .failed e) :
    x.ending = .failed e := by
  rw [← bind_pure_comp] at h
  rcases failed_of_bind h with h | ⟨a, -, h⟩
  · exact h
  · cases h

/-- A list of pieces finishes if all of them do. -/
theorem finished_of_mapM {f : α → Exec ε β} {as : List α} {bs : List β}
    (h : (as.mapM f).ending = .finished bs) :
    List.Forall₂ (fun a b => (f a).ending = .finished b) as bs := by
  induction as generalizing bs with
  | nil =>
    cases h
    exact .nil
  | cons a as ih =>
    -- The first piece, the others, and the list of their values.
    rw [List.mapM_cons] at h
    obtain ⟨b, hb, h⟩ := finished_of_bind h
    obtain ⟨cs, hcs, h⟩ := finished_of_bind h
    cases h
    exact .cons hb (ih hcs)

/-- **What a list of pieces comes to**, if it is known when each piece finishes and with what. -/
theorem finished_mapM_iff {f : α → Exec ε β} {P : α → Prop} {g : α → β} {as : List α} {bs : List β}
    (h : ∀ a ∈ as, ∀ b, (f a).ending = .finished b ↔ P a ∧ b = g a) :
    (as.mapM f).ending = .finished bs ↔ (∀ a ∈ as, P a) ∧ bs = as.map g := by
  induction as generalizing bs with
  | nil => exact ⟨fun h => by cases h; simp, fun ⟨_, h⟩ => by rw [h]; rfl⟩
  | cons a as ih =>
    rw [List.forall_mem_cons] at h
    rw [List.mapM_cons, finished_bind_iff, List.forall_mem_cons, List.map_cons]
    simp only [finished_bind_iff, h.1, ih h.2]
    constructor
    · rintro ⟨b, ⟨ha, rfl⟩, cs, ⟨has, rfl⟩, hbs⟩
      cases hbs
      exact ⟨⟨ha, has⟩, rfl⟩
    · rintro ⟨⟨ha, has⟩, rfl⟩
      exact ⟨_, ⟨ha, rfl⟩, _, ⟨has, rfl⟩, rfl⟩

/-- **A list of pieces fails with its first failing one.** -/
theorem failed_of_mapM {f : α → Exec ε β} {as : List α} {e : ε}
    (h : (as.mapM f).ending = .failed e) :
    ∃ before a after, as = before ++ a :: after ∧
      (∀ a ∈ before, ∃ b, (f a).ending = .finished b) ∧ (f a).ending = .failed e := by
  induction as with
  | nil => cases h
  | cons a as ih =>
    rw [List.mapM_cons] at h
    -- The first piece fails, or it finishes and one of the others fails.
    rcases failed_of_bind h with h | ⟨b, hb, h⟩
    · exact ⟨[], a, as, rfl, by simp, h⟩
    · rcases failed_of_bind h with h | ⟨bs, -, h⟩
      · obtain ⟨before, a', after, rfl, hf, he⟩ := ih h
        refine ⟨a :: before, a', after, rfl, ?_, he⟩
        rw [List.forall_mem_cons]
        exact ⟨⟨b, hb⟩, hf⟩
      · cases h

/-- **A list of pieces fails with its first failing one**, whatever comes behind it. -/
theorem ending_mapM_of_first_failed {f : α → Exec ε β} {before : List α} {a : α} (after : List α)
    (hb : ∀ a ∈ before, ∃ b, (f a).ending = .finished b) {e : ε} (hf : (f a).ending = .failed e) :
    ((before ++ a :: after).mapM f).ending = .failed e := by
  induction before with
  | nil =>
    rw [List.nil_append, List.mapM_cons]
    exact ending_bind_of_failed hf _
  | cons c before ih =>
    -- Pieces that finish only hand on to the next one.
    rw [List.forall_mem_cons] at hb
    obtain ⟨b, hc⟩ := hb.1
    rw [List.cons_append, List.mapM_cons, ending_bind_of_finished hc]
    exact ending_bind_of_failed (ih hb.2) _

/-! ## Catching -/

/-- What is caught depends on the ending alone. -/
theorem ending_contained_congr {x y : Exec ε α} (h : x.ending = y.ending) :
    (x.contained : Exec φ _).ending = y.contained.ending := by
  simp only [contained, h]

theorem Alike.attempt {R : α → β → Prop} {x : Exec ε α} {y : Exec ε β} (h : x.Alike R y) :
    (x.attempt : Exec φ _).Alike
      (fun r r' => (∃ a b, r = .ok a ∧ r' = .ok b ∧ R a b) ∨ ∃ e, r = .error e ∧ r' = .error e)
      y.attempt := by
  unfold Alike at h ⊢
  simp only [Exec.attempt]
  cases hx : x.ending <;> cases hy : y.ending <;> rw [hx, hy] at h <;> cases h
  case finished.finished a b hab => exact .finished (.inl ⟨a, b, rfl, rfl, hab⟩)
  case failed.failed e => exact .finished (.inr ⟨e, rfl, rfl⟩)
  case panicked.panicked m => exact .panicked m
  case exited.exited c => exact .exited c

/-! ## Cleaning up -/

/-- Nothing is cleaned up behind a run that does not panic. -/
theorem cleanedBy_of_isPanic_eq_false {x : Exec ε α} (h : x.ending.isPanic = false)
    (cleanup : Exec ε Unit) : x.cleanedBy cleanup = x := by
  unfold cleanedBy
  cases hx : x.ending with
  | panicked m => rw [hx] at h; cases h
  | _ => rfl

theorem finished_of_cleanedBy {x : Exec ε α} {cleanup : Exec ε Unit} {a : α}
    (h : (x.cleanedBy cleanup).ending = .finished a) : x.ending = .finished a := by
  unfold cleanedBy at h
  cases hx : x.ending with
  | panicked m =>
    simp only [hx] at h
    obtain ⟨u, -, h⟩ := finished_of_bind h
    obtain ⟨v, -, h⟩ := finished_of_bind h
    cases h
  | _ => rw [hx] at h; exact hx ▸ h

theorem ending_whilePanicking_congr {x y : Exec ε α} (h : x.ending = y.ending) :
    x.whilePanicking.ending = y.whilePanicking.ending := by
  simp only [whilePanicking, h]

theorem ending_cleanedBy_congr {x y : Exec ε α} {c d : Exec ε Unit} (h : x.ending = y.ending)
    (hc : c.ending = d.ending) : (x.cleanedBy c).ending = (y.cleanedBy d).ending := by
  cases hx : x.ending with
  | panicked m =>
    simp only [cleanedBy, hx, ← h]
    exact ending_bind_congr rfl fun _ =>
      ending_bind_congr (ending_whilePanicking_congr hc) fun _ => rfl
  | _ =>
    rw [cleanedBy_of_isPanic_eq_false (by rw [hx]; rfl),
      cleanedBy_of_isPanic_eq_false (by rw [← h, hx]; rfl), h]

/-! ## Properties kept by composition -/

/-- **Is a property of code kept by composition?** -/
structure IsComposable (P : (α : Type) → Exec ε α → Prop) : Prop where
  /-- Code that just gives a value has it. -/
  pure : ∀ {α : Type} (a : α), P α (Pure.pure a)
  /-- Composed code has it if its pieces do, the later ones behind values of the earlier. -/
  bind : ∀ {α β : Type} {x : Exec ε α} {f : α → Exec ε β}, P α x →
    (∀ a, x.ending = .finished a → P β (f a)) → P β (x >>= f)

namespace IsComposable

variable {P : (α : Type) → Exec ε α → Prop}

theorem ofExcept (hP : IsComposable P) (hfail : ∀ e, P α (.fail e)) (r : Except ε α) :
    P α (.ofExcept r) := by
  cases r with
  | ok a => exact hP.pure a
  | error e => exact hfail e

theorem foldlM (hP : IsComposable P) {f : β → α → Exec ε β} (as : List α)
    (hf : ∀ b, ∀ a ∈ as, P β (f b a)) (b : β) : P β (as.foldlM f b) := by
  induction as generalizing b with
  | nil => exact hP.pure b
  | cons a as ih =>
    rw [List.foldlM_cons]
    apply hP.bind (hf b a (List.mem_cons_self ..))
    intro c _
    exact ih (fun b a ha => hf b a (List.mem_cons_of_mem _ ha)) c

theorem mapM (hP : IsComposable P) {f : α → Exec ε β} (as : List α)
    (hf : ∀ a ∈ as, P β (f a)) : P (List β) (as.mapM f) := by
  induction as with
  | nil => exact hP.pure []
  | cons a as ih =>
    rw [List.forall_mem_cons] at hf
    rw [List.mapM_cons]
    exact hP.bind hf.1 fun b _ => hP.bind (ih hf.2) fun bs _ => hP.pure _

end IsComposable

/-- **Is a property of code kept by composition and by cleaning up?** -/
structure IsCleanable (P : (α : Type) → Exec ε α → Prop) : Prop extends IsComposable P where
  /-- Code has it while a panic passes. -/
  whilePanicking : ∀ {α : Type} {x : Exec ε α}, P α x → P α x.whilePanicking
  /-- Code that is cleaned up has it if what cleans up has it, too. -/
  cleanedBy : ∀ {α : Type} {x : Exec ε α} {cleanup : Exec ε Unit}, P α x → P Unit cleanup →
    P α (x.cleanedBy cleanup)

theorem events_bind (x : Exec ε α) (f : α → Exec ε β) :
    (x >>= f).events =
      x.events ++ match x.ending with
        | .finished a => (f a).events
        | _ => [] := by
  simp only [Bind.bind, Exec.bind]
  cases x.ending <;> simp

/-- **What is so of all events is kept.** -/
theorem isCleanable_forall_events (p : Event → Prop) :
    IsCleanable fun α (x : Exec ε α) => ∀ e ∈ x.events, p e := by
  have hbind : ∀ {α β : Type} {x : Exec ε α} {f : α → Exec ε β}, (∀ e ∈ x.events, p e) →
      (∀ a, x.ending = .finished a → ∀ e ∈ (f a).events, p e) → ∀ e ∈ (x >>= f).events, p e := by
    intro α β x f h hf
    rw [events_bind, List.forall_mem_append]
    refine ⟨h, ?_⟩
    cases hx : x.ending with
    | finished a => exact hf a hx
    | _ => exact List.forall_mem_nil _
  refine ⟨⟨fun _ => List.forall_mem_nil _, hbind⟩, fun h => h, fun {α x cleanup} h hc => ?_⟩
  unfold Exec.cleanedBy
  cases x.ending with
  | panicked m => exact hbind h fun _ _ => hbind hc fun _ _ => List.forall_mem_nil _
  | _ => exact h

/-- **Not panicking is kept.** -/
theorem isCleanable_not_isPanic :
    IsCleanable fun α (x : Exec ε α) => x.ending.isPanic = false where
  pure _ := rfl
  bind := by
    intro α β x f h hf
    cases hx : x.ending with
    | finished a =>
      rw [ending_bind_of_finished hx]
      exact hf a hx
    | failed e => rw [ending_bind_of_failed hx]; rfl
    | panicked m => rw [hx] at h; cases h
    | exited c => rw [ending_bind_of_exited hx]; rfl
  whilePanicking := by
    intro α x _
    simp only [Exec.whilePanicking]
    cases x.ending <;> rfl
  cleanedBy := by
    intro α x cleanup h _
    rwa [cleanedBy_of_isPanic_eq_false h]

/-- **Not failing is kept.** -/
theorem isCleanable_not_isFailure :
    IsCleanable fun α (x : Exec ε α) => x.ending.isFailure = false where
  pure _ := rfl
  bind := by
    intro α β x f h hf
    cases hx : x.ending with
    | finished a =>
      rw [ending_bind_of_finished hx]
      exact hf a hx
    | failed e => rw [hx] at h; cases h
    | panicked m => rw [ending_bind_of_panicked hx]; rfl
    | exited c => rw [ending_bind_of_exited hx]; rfl
  whilePanicking := by
    intro α x h
    simp only [Exec.whilePanicking]
    cases hx : x.ending with
    | failed e => rw [hx] at h; cases h
    | _ => rfl
  cleanedBy := by
    intro α x cleanup h hc
    cases hx : x.ending with
    | panicked m =>
      simp only [Exec.cleanedBy, hx, Bind.bind, Exec.bind, Exec.whilePanicking]
      cases hc' : cleanup.ending with
      | failed e => rw [hc'] at hc; cases hc
      | _ => rfl
    | _ => rwa [cleanedBy_of_isPanic_eq_false (by rw [hx]; rfl)]

/-! ## Orderly endings -/

/-- **Ending orderly is kept.** -/
theorem isCleanable_isOrderly :
    IsCleanable fun α (x : Exec ε α) => x.ending.IsOrderly where
  pure := .finished
  bind := by
    intro α β x f h hf
    cases hx : x.ending with
    | finished a =>
      rw [ending_bind_of_finished hx]
      exact hf a hx
    | failed e =>
      rw [ending_bind_of_failed hx]
      exact .failed e
    | panicked m => rw [hx] at h; cases h
    | exited c => rw [hx] at h; cases h
  whilePanicking := by
    intro α x h
    simp only [Exec.whilePanicking]
    cases hx : x.ending with
    | finished a => exact .finished a
    | failed e => exact .failed e
    | panicked m => rw [hx] at h; cases h
    | exited c => rw [hx] at h; cases h
  cleanedBy := by
    intro α x cleanup h _
    rwa [cleanedBy_of_isPanic_eq_false h.isPanic]

/-- Code that does not end its process is caught. -/
theorem isOrderly_contained {x : Exec ε α} (h : x.ending.isExit = false) :
    (x.contained : Exec φ _).ending.IsOrderly := by
  simp only [contained]
  cases hx : x.ending with
  | finished a => exact .finished _
  | failed e => exact .finished _
  | panicked m => exact .finished _
  | exited c => rw [hx] at h; cases h

theorem isOrderly_attempt {x : Exec ε α} (h : x.ending.IsOrderly) :
    (x.attempt : Exec φ _).ending.IsOrderly := by
  simp only [attempt]
  cases hx : x.ending with
  | finished a => exact .finished _
  | failed e => exact .finished _
  | panicked m => rw [hx] at h; cases h
  | exited c => rw [hx] at h; cases h

end Exec

end SuitePool
