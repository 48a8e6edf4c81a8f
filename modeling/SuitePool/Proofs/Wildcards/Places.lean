import Mathlib.Data.List.Basic
import Mathlib.Data.Prod.Basic
import Mathlib.Logic.Relation
import Mathlib.Order.RelClasses
import Mathlib.Tactic.Common
import SuitePool.Proofs.Wildcards

/-!
# Matching by places

Matching looks at what is left of a pattern and of a name.  It can be done with places in both
instead: one of the next token, one of the next character, and the two places to go back to.  A
place then has to be looked at before it is known to be one, and places move backwards whenever a
star is resumed, so that nothing is clear about where they lead.  But each round does what one step
of matching does, and the star that is resumed never moves backwards: either a later one takes its
place, or it takes one more character.

## Main definitions

* `Round`, `LeadsTo`, `EndsWith`: loops, one round at a time.
* `classRound`, `matchClass`: reading a class by places.
* `Cursor`, `matchRound`: matching by places.
* `Cursor.InBounds`, `Cursor.measure`
* `Cursor.Shows`: the position of matching that places stand for.

## Main results

* `matchClass_eq`: reading by places is reading what is left.
* `more_cases`: what a round can lead to.
* `follows_matchRound`: a round does what a step of matching does.
* `matchRound_ends_in_bounds`
-/

namespace SuitePool

namespace Wildcard

/-! ## Loops -/

/-- What one round of a loop leads to. -/
inductive Round (σ α : Type) where
  /-- The loop goes on. -/
  | more (s : σ)
  /-- The loop has ended. -/
  | done (a : α)

section Loops

variable {σ α β : Type} {round : σ → Round σ α}

/-- **Does one round lead** from one state to another? -/
def LeadsTo (round : σ → Round σ α) (s s' : σ) : Prop := round s = .more s'

/-- The states that rounds lead to. -/
abbrev Reaches (round : σ → Round σ α) : σ → σ → Prop := Relation.ReflTransGen (LeadsTo round)

/-- **Does a loop end with a result?** -/
def EndsWith (round : σ → Round σ α) (s : σ) (a : α) : Prop :=
  ∃ s', Reaches round s s' ∧ round s' = .done a

theorem endsWith_of_done {s : σ} {a : α} (h : round s = .done a) : EndsWith round s a :=
  ⟨s, .refl, h⟩

theorem EndsWith.of_more {s s' : σ} {a : α} (h : round s = .more s') (hs : EndsWith round s' a) :
    EndsWith round s a := by
  obtain ⟨last, hreaches, hdone⟩ := hs
  exact ⟨last, .head h hreaches, hdone⟩

/-- What every round keeps is kept by many. -/
theorem Reaches.keeps {P : σ → Prop} (hP : ∀ s s', P s → round s = .more s' → P s') {s s' : σ}
    (hs : P s) (h : Reaches round s s') : P s' := by
  induction h with
  | refl => exact hs
  | tail _ h ih => exact hP _ _ ih h

/-- **No state comes again** in a loop whose rounds all decrease a measure. -/
theorem ne_of_transGen {R : β → β → Prop} [IsTrans β R] [Std.Irrefl R] {P : σ → Prop}
    {measure : σ → β} (hP : ∀ s s', P s → round s = .more s' → P s')
    (hm : ∀ s s', P s → round s = .more s' → R (measure s') (measure s)) {s s' : σ} (hs : P s)
    (h : Relation.TransGen (LeadsTo round) s s') : s' ≠ s := by
  have hdecreases : P s' ∧ R (measure s') (measure s) := by
    induction h with
    | single h => exact ⟨hP _ _ hs h, hm _ _ hs h⟩
    | tail _ h ih => exact ⟨hP _ _ ih.1 h, Trans.trans (hm _ _ ih.1 h) ih.2⟩
  rintro rfl
  exact Std.Irrefl.irrefl _ hdecreases.2

end Loops

variable {pattern name : List Char}

/-- What is left of a list from one of its places on. -/
theorem drop_of_getElem? {α : Type} {as : List α} {i : Nat} {a : α} (h : as[i]? = some a) :
    as.drop i = a :: as.drop (i + 1) := by
  obtain ⟨hi, rfl⟩ := List.getElem?_eq_some_iff.1 h
  exact List.drop_eq_getElem_cons hi

theorem drop_of_getElem?_none {α : Type} {as : List α} {i : Nat} (h : as[i]? = none) :
    as.drop i = [] :=
  List.drop_eq_nil_iff.2 (List.getElem?_eq_none_iff.1 h)

theorem lt_of_getElem? {α : Type} {as : List α} {i : Nat} {a : α} (h : as[i]? = some a) :
    i < as.length :=
  (List.getElem?_eq_some_iff.1 h).1

/-! ## Classes -/

/-- Where the reader of a class stands. -/
structure ClassCursor where
  /-- The place of the next item. -/
  place : Nat
  /-- Does an item that was read contain the character? -/
  matched : Bool
  /-- Is the next item the first one? -/
  first : Bool

/-- Does a mark of negation stand at a place? -/
def negatedAt (pattern : List Char) (i : Nat) : Bool :=
  pattern[i]? == some '!' || pattern[i]? == some '^'

/-- The end of the range that begins at a place, if one does. -/
def rangeEnd? (pattern : List Char) (i : Nat) : Option Char :=
  if pattern[i + 1]? = some '-' then pattern[i + 2]?.filter (· ≠ ']') else none

/-- **One round of reading a class**: one item, or the end of the class.  There is no result if the
pattern ends before the class does. -/
def classRound (pattern : List Char) (negated : Bool) (c : Char) (s : ClassCursor) :
    Round ClassCursor (Option (Bool × Nat)) :=
  match pattern[s.place]? with
  | none => .done none
  | some a =>
    if a = ']' ∧ s.first = false then .done (some (s.matched != negated, s.place + 1))
    else
      match rangeEnd? pattern s.place with
      | some b => .more ⟨s.place + 3, s.matched || (a ≤ c && c ≤ b), false⟩
      | none => .more ⟨s.place + 1, s.matched || a == c, false⟩

theorem rangeEnd?_eq_some_iff {i : Nat} {b : Char} :
    rangeEnd? pattern i = some b ↔
      pattern[i + 1]? = some '-' ∧ pattern[i + 2]? = some b ∧ b ≠ ']' := by
  rw [rangeEnd?]
  split_ifs with h <;> simp [h]

/-- **Every round of reading a class** goes forward, and not beyond the end of the pattern. -/
theorem classRound_more {negated : Bool} {c : Char} {s s' : ClassCursor}
    (h : classRound pattern negated c s = .more s') :
    s.place < s'.place ∧ s'.place ≤ pattern.length := by
  rw [classRound] at h
  split at h
  · cases h
  · next a ha =>
    have hlt := lt_of_getElem? ha
    split_ifs at h
    split at h
    · next b hb =>
      cases h
      have := lt_of_getElem? (rangeEnd?_eq_some_iff.1 hb).2.1
      exact ⟨by simp, this⟩
    · cases h
      exact ⟨by simp, hlt⟩

/-- The rounds of reading a class to their end. -/
def readClass (pattern : List Char) (negated : Bool) (c : Char) (s : ClassCursor) :
    Option (Bool × Nat) :=
  match _h : classRound pattern negated c s with
  | .more s' => readClass pattern negated c s'
  | .done r => r
termination_by pattern.length - s.place
decreasing_by
  have := classRound_more _h
  omega

/-- The start of reading the class whose bracket stands at a place. -/
def ClassCursor.start (pattern : List Char) (i : Nat) : ClassCursor :=
  ⟨if negatedAt pattern (i + 1) then i + 2 else i + 1, false, true⟩

/-- **Reads the class whose bracket stands at a place**: does it contain the character, and where
does the class end? -/
def matchClass (pattern : List Char) (i : Nat) (c : Char) : Option (Bool × Nat) :=
  readClass pattern (negatedAt pattern (i + 1)) c (.start pattern i)

theorem endsWith_readClass (negated : Bool) (c : Char) (s : ClassCursor) :
    EndsWith (classRound pattern negated c) s (readClass pattern negated c s) := by
  fun_induction readClass pattern negated c s with
  | case1 s s' h ih => exact ih.of_more h
  | case2 s r h => exact endsWith_of_done h

/-- **Reading items by places** is reading what is left of the pattern. -/
theorem readClass_eq (negated : Bool) (c : Char) (s : ClassCursor) :
    readClass pattern negated c s =
      (readItems s.first (pattern.drop s.place)).map fun p =>
        ((s.matched || p.1.any (·.contains c)) != negated, pattern.length - p.2.length) := by
  fun_induction readClass pattern negated c s with
  | case1 s s' h ih =>
    rw [ih]
    rw [classRound] at h
    split at h
    · cases h
    · next a ha =>
      split_ifs at h with hclose
      have hfirst : a = ']' → s.first = true := by simpa using hclose
      rw [drop_of_getElem? ha]
      split at h
      · next b hb =>
        cases h
        obtain ⟨hhyphen, hend, hne⟩ := rangeEnd?_eq_some_iff.1 hb
        rw [drop_of_getElem? hhyphen, drop_of_getElem? hend, readItems_range _ hfirst hne,
          Option.map_map]
        simp [Function.comp_def, Item.contains, Bool.or_assoc]
      · next hb =>
        cases h
        have hchar : ∀ b more, pattern.drop (s.place + 1) = '-' :: b :: more → b = ']' := by
          intro b more he
          have hhyphen : pattern[s.place + 1]? = some '-' := by rw [← List.head?_drop, he]; rfl
          have hend : pattern[s.place + 2]? = some b := by
            rw [show s.place + 2 = s.place + 1 + 1 from rfl, ← List.getElem?_drop, he]
            rfl
          by_contra hne
          rw [rangeEnd?_eq_some_iff.2 ⟨hhyphen, hend, hne⟩] at hb
          cases hb
        rw [readItems_char hfirst hchar, Option.map_map]
        simp [Function.comp_def, Item.contains, Bool.or_assoc]
  | case2 s r h =>
    rw [classRound] at h
    split at h
    · next hnone =>
      cases h
      rw [drop_of_getElem?_none hnone]
      simp [readItems]
    · next a ha =>
      have hlt := lt_of_getElem? ha
      split_ifs at h with hclose
      · cases h
        obtain ⟨rfl, hfirst⟩ := hclose
        rw [drop_of_getElem? ha, hfirst, readItems_close]
        simp
        omega
      · split at h <;> cases h

/-- A mark of negation is looked for at a place, and passed. -/
theorem drop_start (i : Nat) :
    (∃ c, pattern.drop (i + 1) = c :: pattern.drop (ClassCursor.start pattern i).place ∧
      IsNegation c ∧ negatedAt pattern (i + 1) = true) ∨
    ((∀ c ∈ (pattern.drop (i + 1)).head?, ¬ IsNegation c) ∧
      (ClassCursor.start pattern i).place = i + 1 ∧ negatedAt pattern (i + 1) = false) := by
  have hnegated : negatedAt pattern (i + 1) = true ↔
      ∃ c, pattern[i + 1]? = some c ∧ IsNegation c := by
    simp [negatedAt, IsNegation, and_or_left, exists_or]
  rw [ClassCursor.start, List.head?_drop]
  cases hn : negatedAt pattern (i + 1) with
  | true =>
    obtain ⟨c, hc, hneg⟩ := hnegated.1 hn
    exact .inl ⟨c, drop_of_getElem? hc, hneg, rfl⟩
  | false =>
    refine .inr ⟨fun c hc hneg => ?_, rfl, rfl⟩
    rw [hnegated.2 ⟨c, hc, hneg⟩] at hn
    cases hn

/-- **Reading a class by places** is reading what is left of the pattern. -/
theorem matchClass_eq (i : Nat) (c : Char) :
    matchClass pattern i c = (readSet (pattern.drop (i + 1))).map fun p =>
      (p.1.contains c, pattern.length - p.2.length) := by
  rw [matchClass, readClass_eq]
  rcases drop_start i with ⟨mark, hdrop, hneg, hn⟩ | ⟨hneg, hplace, hn⟩
  · rw [hn, hdrop, readSet_negated hneg, Option.map_map]
    simp [Function.comp_def, CharSet.contains, ClassCursor.start]
  · rw [hn, hplace, readSet_plain hneg, Option.map_map]
    simp [Function.comp_def, CharSet.contains, ClassCursor.start]

/-- What is left behind items comes behind a closing bracket. -/
theorem ReadsItems.exists_append {first : Bool} {cs rest : List Char} {items : List Item}
    (h : ReadsItems first cs items rest) : ∃ before, cs = before ++ ']' :: rest := by
  induction h with
  | close => exact ⟨[], rfl⟩
  | @range _ a b _ _ _ _ _ _ ih =>
    obtain ⟨before, rfl⟩ := ih
    exact ⟨a :: '-' :: b :: before, rfl⟩
  | @char _ a _ _ _ _ _ _ ih =>
    obtain ⟨before, rfl⟩ := ih
    exact ⟨a :: before, rfl⟩

theorem ReadsSet.exists_append {cs rest : List Char} {k : CharSet} (h : ReadsSet cs k rest) :
    ∃ before, cs = before ++ ']' :: rest := by
  cases h with
  | @negated c _ _ _ _ h =>
    obtain ⟨before, rfl⟩ := h.exists_append
    exact ⟨c :: before, rfl⟩
  | plain _ h => exact h.exists_append

/-- **Where a class ends does not hang on the character**: its end is a place of the pattern behind
a closing bracket, and the same for every character; a class that does not end does so for none. -/
theorem matchClass_cases (pattern : List Char) (i : Nat) :
    (readSet (pattern.drop (i + 1)) = none ∧ ∀ c, matchClass pattern i c = none) ∨
    ∃ k next, readSet (pattern.drop (i + 1)) = some (k, pattern.drop next) ∧
      i < next ∧ next ≤ pattern.length ∧ pattern[next - 1]? = some ']' ∧
      ∀ c, matchClass pattern i c = some (k.contains c, next) := by
  cases hr : readSet (pattern.drop (i + 1)) with
  | none => exact .inl ⟨rfl, fun c => by rw [matchClass_eq, hr, Option.map_none]⟩
  | some found =>
    obtain ⟨k, rest⟩ := found
    obtain ⟨before, hbefore⟩ := (readSet_eq_some_iff.1 hr).exists_append
    have hlength := congrArg List.length hbefore
    simp only [List.length_drop, List.length_append, List.length_cons] at hlength
    -- The end is counted from the start of the pattern.
    have hnext : pattern.length - rest.length = i + 1 + (before.length + 1) := by omega
    refine .inr ⟨k, pattern.length - rest.length, ?_, by omega, by omega, ?_, fun c => ?_⟩
    · rw [hnext, ← List.drop_drop, hbefore, List.append_cons,
        List.drop_left' (by simp)]
    · rw [hnext, show i + 1 + (before.length + 1) - 1 = i + 1 + before.length by omega,
        ← List.getElem?_drop, hbefore]
      simp
    · rw [matchClass_eq, hr, Option.map_some]

/-- A bracket that comes first begins a range, and a bracket that is not closed no class. -/
example : matchClass "[]-a]*".toList 0 '^' = some (true, 5) ∧
    matchClass "[!]".toList 0 'c' = none :=
  ⟨by cbv, by cbv⟩

/-! ## Matching -/

/-- Where matching stands, told by places. -/
structure Cursor where
  /-- The place of the next token in the pattern. -/
  p : Nat
  /-- The place of the next character in the name. -/
  n : Nat
  /-- The place behind the most recent star, and the place in the name from where it was last
  tried. -/
  back : Option (Nat × Nat)

namespace Cursor

/-- The start of matching. -/
def start : Cursor := ⟨0, 0, none⟩

end Cursor

/-- The place behind the token at a place of the pattern, if the token fits a character. -/
def nextPlace? (pattern : List Char) (p : Nat) (c : Char) : Option Nat :=
  match pattern[p]? with
  | none => none
  | some a =>
    if a = '?' then some (p + 1)
    else if a = '[' then
      match matchClass pattern p c with
      | some (true, next) => some next
      | some (false, _) => none
      | none => if c = '[' then some (p + 1) else none
    else if a = c then some (p + 1) else none

/-- **One round of matching by places.**  There is no result if the pattern is cut behind its
end. -/
def matchRound (pattern name : List Char) (s : Cursor) : Round Cursor (Option Bool) :=
  match name[s.n]? with
  | none =>
    .done (if s.p ≤ pattern.length then some ((pattern.drop s.p).all (· == '*')) else none)
  | some c =>
    if pattern[s.p]? = some '*' then .more ⟨s.p + 1, s.n, some (s.p + 1, s.n)⟩
    else
      match nextPlace? pattern s.p c, s.back with
      | some next, _ => .more ⟨next, s.n + 1, s.back⟩
      | none, some (p, n) => .more ⟨p, n + 1, some (p, n + 1)⟩
      | none, none => .done (some false)

/-! ## Tokens at their places -/

theorem tokens_star (cs : List Char) : tokens ('*' :: cs) = .star :: tokens cs := by
  rw [tokens, if_pos rfl]

/-- **The token at a place of the pattern**: where it ends does not hang on the character, which
decides only whether it fits. -/
theorem exists_token {p : Nat} {a : Char} (ha : pattern[p]? = some a) (hs : a ≠ '*') :
    ∃ t next, tokens (pattern.drop p) = t :: tokens (pattern.drop next) ∧ t ≠ .star ∧
      p < next ∧ next ≤ pattern.length ∧
      ∀ c, nextPlace? pattern p c = if t.fits c = true then some next else none := by
  have hlt := lt_of_getElem? ha
  rw [drop_of_getElem? ha]
  by_cases hany : a = '?'
  · subst hany
    refine ⟨.any, p + 1, ?_, by simp, by omega, hlt, fun c => by simp [nextPlace?, ha, Token.fits]⟩
    rw [tokens, if_neg (by decide), if_pos rfl]
  · by_cases hbracket : a = '['
    · subst hbracket
      rcases matchClass_cases pattern p with ⟨hr, hm⟩ | ⟨k, next, hr, hlt, hle, -, hm⟩
      · refine ⟨.char '[', p + 1, ?_, by simp, by omega, hlt, fun c => ?_⟩
        · exact (reads_iff.1 (.bracket (readSet_eq_none_iff.1 hr) (reads_tokens _))).symm
        · by_cases hc : c = '[' <;> simp [nextPlace?, ha, hm, Token.fits, hc, Ne.symm]
      · refine ⟨.oneOf k, next, ?_, by simp, hlt, hle, fun c => ?_⟩
        · exact (reads_iff.1 (.oneOf (readSet_eq_some_iff.1 hr) (reads_tokens _))).symm
        · cases hc : k.contains c <;> simp [nextPlace?, ha, hm, Token.fits, hc]
    · refine ⟨.char a, p + 1, ?_, by simp, by omega, hlt, fun c => ?_⟩
      · rw [tokens, if_neg hs, if_neg hany, if_neg hbracket]
      · simp [nextPlace?, ha, hany, hbracket, Token.fits]

/-! ## Rounds -/

variable {s s' : Cursor}

/-- **What a round can lead to**: a star is met, a token is passed, or the most recent star is
resumed, which takes one more character. -/
theorem more_cases (h : matchRound pattern name s = .more s') :
    s.n < name.length ∧
      ((s.p < pattern.length ∧ s' = ⟨s.p + 1, s.n, some (s.p + 1, s.n)⟩) ∨
        (∃ next, s.p < next ∧ next ≤ pattern.length ∧ s' = ⟨next, s.n + 1, s.back⟩) ∨
        ∃ p n, s.back = some (p, n) ∧ s' = ⟨p, n + 1, some (p, n + 1)⟩) := by
  rw [matchRound] at h
  split at h
  · cases h
  · next c hc =>
    refine ⟨lt_of_getElem? hc, ?_⟩
    split_ifs at h with hstar
    · cases h
      exact .inl ⟨lt_of_getElem? hstar, rfl⟩
    · split at h
      · next next hnext =>
        cases h
        cases ha : pattern[s.p]? with
        | none => simp [nextPlace?, ha] at hnext
        | some a =>
          obtain ⟨t, next', -, -, hlt, hle, hfits⟩ :=
            exists_token ha fun he => hstar (by rw [ha, he])
          rw [hfits, Option.ite_none_right_eq_some, Option.some.injEq] at hnext
          obtain ⟨-, rfl⟩ := hnext
          exact .inr (.inl ⟨next', hlt, hle, rfl⟩)
      · next p n _ hback =>
        cases h
        exact .inr (.inr ⟨p, n, hback, rfl⟩)
      · cases h

/-- **Are the places within their bounds?**  Those to go back to are not behind the others. -/
structure Cursor.InBounds (pattern name : List Char) (s : Cursor) : Prop where
  p_le : s.p ≤ pattern.length
  n_le : s.n ≤ name.length
  back_le : ∀ p n, s.back = some (p, n) → p ≤ s.p ∧ n ≤ s.n

theorem inBounds_start : Cursor.start.InBounds pattern name :=
  ⟨Nat.zero_le _, Nat.zero_le _, by simp [Cursor.start]⟩

/-- **Every round stays within bounds.** -/
theorem inBounds_matchRound (hb : s.InBounds pattern name)
    (h : matchRound pattern name s = .more s') : s'.InBounds pattern name := by
  obtain ⟨hn, ⟨hp, rfl⟩ | ⟨next, hlt, hle, rfl⟩ | ⟨p, n, hback, rfl⟩⟩ := more_cases h
  · refine ⟨hp, hb.n_le, fun p n he => ?_⟩
    cases he
    exact ⟨Nat.le_refl _, Nat.le_refl _⟩
  · refine ⟨hle, hn, fun p n he => ?_⟩
    have := hb.back_le p n he
    exact ⟨by simp; omega, by simp; omega⟩
  · have := hb.back_le p n hback
    refine ⟨Nat.le_trans this.1 hb.p_le, by simp; omega, fun p' n' he => ?_⟩
    cases he
    exact ⟨Nat.le_refl _, Nat.le_refl _⟩

/-- **How far the loop is from its end.**  A star that is met leaves less of the pattern behind it
than the one before it; a star that is resumed leaves less of the name to be tried from; and a token
that is passed leaves less of the name. -/
def Cursor.measure (pattern name : List Char) (s : Cursor) : Nat × Nat × Nat :=
  match s.back with
  | none => (pattern.length + 1, 0, name.length - s.n)
  | some (p, n) => (pattern.length - p, name.length - n, name.length - s.n)

/-- **Every round decreases the measure.** -/
theorem measure_matchRound (hb : s.InBounds pattern name)
    (h : matchRound pattern name s = .more s') :
    Earlier (s'.measure pattern name) (s.measure pattern name) := by
  obtain ⟨hn, ⟨hp, rfl⟩ | ⟨next, hlt, hle, rfl⟩ | ⟨p, n, hback, rfl⟩⟩ := more_cases h
  · cases hback : s.back with
    | none =>
      simp only [Cursor.measure, hback]
      exact .left _ _ (by omega)
    | some back =>
      have := hb.back_le _ _ hback
      simp only [Cursor.measure, hback]
      exact .left _ _ (by omega)
  · cases hback : s.back with
    | none =>
      simp only [Cursor.measure, hback]
      exact .right _ (.right _ (by omega))
    | some back =>
      simp only [Cursor.measure, hback]
      exact .right _ (.right _ (by omega))
  · have := hb.back_le p n hback
    simp only [Cursor.measure, hback]
    exact .right _ (.left _ _ (by omega))

/-! ## The position of matching -/

/-- **Do places show a position of matching?**  What comes behind them is what the position has
left. -/
structure Cursor.Shows (pattern name : List Char) (s : Cursor) (t : Position) : Prop where
  pattern_eq : t.pattern = tokens (pattern.drop s.p)
  name_eq : t.name = name.drop s.n
  retry_eq : t.retry = s.back.map fun b => ⟨tokens (pattern.drop b.1), name.drop b.2⟩

theorem shows_start : Cursor.start.Shows pattern name (.start (tokens pattern) name) :=
  ⟨rfl, rfl, rfl⟩

/-- **Does a round do what a step of matching does?** -/
def Round.Follows (pattern name : List Char) : Round Cursor (Option Bool) → Outcome → Prop
  | .more s, .more t => s.Shows pattern name t
  | .done answer, .done matched => answer = some matched
  | _, _ => False

/-- Stars are characters that are read as stars. -/
theorem all_star_tokens (cs : List Char) : (tokens cs).all (· == .star) = cs.all (· == '*') := by
  fun_induction tokens cs with
  | case1 => rfl
  | case2 cs ih => simp [ih]
  | case3 cs hs ih => simp
  | case4 cs k rest hk hs ha ih => simp
  | case5 cs hk hs ha ih => simp
  | case6 c cs hs ha hb ih =>
    rw [List.all_cons, List.all_cons, beq_false_of_ne (by simp), beq_false_of_ne hs,
      Bool.false_and, Bool.false_and]

section Steps

variable {t : Position} {c : Char} {cs : List Char}

theorem step_end (hn : t.name = []) : step t = .done (t.pattern.all (· == .star)) := by
  rw [step.eq_def]
  split
  · rfl
  all_goals next h _ => rw [hn] at h; cases h

theorem step_star {ts : List Token} (hn : t.name = c :: cs) (hp : t.pattern = .star :: ts) :
    ∃ t', step t = .more t' ∧ t'.pattern = ts ∧ t'.name = c :: cs ∧
      t'.retry = some ⟨ts, c :: cs⟩ := by
  rw [step.eq_def]
  split
  · next h => rw [hn] at h; cases h
  · next hn' hp' =>
    rw [hn] at hn'
    rw [hp] at hp'
    cases hn'
    cases hp'
    exact ⟨_, rfl, rfl, rfl, rfl⟩
  · next hs _ hp' =>
    rw [hp] at hp'
    cases hp'
    exact absurd rfl hs
  · next hp' => rw [hp] at hp'; cases hp'

theorem step_fits {k : Token} {ts : List Token} (hn : t.name = c :: cs) (hp : t.pattern = k :: ts)
    (hs : k ≠ .star) (hf : k.fits c = true) :
    ∃ t', step t = .more t' ∧ t'.pattern = ts ∧ t'.name = cs ∧ t'.retry = t.retry := by
  rw [step.eq_def]
  split
  · next h => rw [hn] at h; cases h
  · next hp' =>
    rw [hp] at hp'
    cases hp'
    exact absurd rfl hs
  · next hn' hp' =>
    rw [hn] at hn'
    rw [hp] at hp'
    cases hn'
    cases hp'
    rw [if_pos hf]
    exact ⟨_, rfl, rfl, rfl, rfl⟩
  · next hp' => rw [hp] at hp'; cases hp'

theorem step_unfit (hn : t.name = c :: cs)
    (hp : ∀ k ∈ t.pattern.head?, k ≠ .star ∧ k.fits c = false) : step t = resume t := by
  rw [step.eq_def]
  split
  · next h => rw [hn] at h; cases h
  · next hp' =>
    rw [hp'] at hp
    exact absurd rfl (hp _ rfl).1
  · next hn' hp' =>
    rw [hn] at hn'
    cases hn'
    rw [hp'] at hp
    rw [if_neg (by simp [(hp _ rfl).2])]
  · rfl

theorem resume_none (hr : t.retry = none) : resume t = .done false := by
  rw [resume]
  split
  · rfl
  · next h => rw [hr] at h; cases h

theorem resume_some {r : Retry} (hr : t.retry = some r) (hn : r.name = c :: cs) :
    ∃ t', resume t = .more t' ∧ t'.pattern = r.pattern ∧ t'.name = cs ∧
      t'.retry = some ⟨r.pattern, cs⟩ := by
  rw [resume]
  split
  · next h => rw [hr] at h; cases h
  · next h =>
    rw [hr] at h
    cases h
    split
    · next h => rw [hn] at h; cases h
    · next h =>
      rw [hn] at h
      cases h
      exact ⟨_, rfl, rfl, rfl, rfl⟩

end Steps

variable {t : Position}

/-- A token that does not fit makes both go back to the most recent star. -/
theorem follows_resume (hb : s.InBounds pattern name) (ht : s.Shows pattern name t) {c : Char}
    (hc : name[s.n]? = some c) (hs : pattern[s.p]? ≠ some '*')
    (hunfit : nextPlace? pattern s.p c = none) (hstep : step t = resume t) :
    (matchRound pattern name s).Follows pattern name (step t) := by
  rw [matchRound, hc]
  simp only [if_neg hs, hunfit]
  have hretry := ht.retry_eq
  cases hback : s.back with
  | none =>
    rw [hback, Option.map_none] at hretry
    rw [hstep, resume_none hretry]
    rfl
  | some b =>
    obtain ⟨p, n⟩ := b
    rw [hback, Option.map_some] at hretry
    have hn : n < name.length := Nat.lt_of_le_of_lt (hb.back_le p n hback).2 (lt_of_getElem? hc)
    obtain ⟨t', ht', hp, hname, hr⟩ := resume_some hretry (List.drop_eq_getElem_cons hn)
    rw [hstep, ht']
    exact ⟨hp, hname, hr⟩

/-- **A round of matching by places does what a step of matching does.** -/
theorem follows_matchRound (hb : s.InBounds pattern name) (ht : s.Shows pattern name t) :
    (matchRound pattern name s).Follows pattern name (step t) := by
  cases hc : name[s.n]? with
  | none =>
    have hn : t.name = [] := by rw [ht.name_eq, drop_of_getElem?_none hc]
    rw [matchRound, hc, step_end hn, ht.pattern_eq, all_star_tokens]
    simp only [if_pos hb.p_le]
    rfl
  | some c =>
    have hn : t.name = c :: name.drop (s.n + 1) := by rw [ht.name_eq, drop_of_getElem? hc]
    cases ha : pattern[s.p]? with
    | none =>
      have hp : t.pattern = [] := by
        rw [ht.pattern_eq, drop_of_getElem?_none ha, tokens]
      exact follows_resume hb ht hc (by simp [ha]) (by simp [nextPlace?, ha])
        (step_unfit hn (by simp [hp]))
    | some a =>
      by_cases hs : a = '*'
      · subst hs
        have hp : t.pattern = .star :: tokens (pattern.drop (s.p + 1)) := by
          rw [ht.pattern_eq, drop_of_getElem? ha, tokens_star]
        obtain ⟨t', ht', hp', hn', hr'⟩ := step_star hn hp
        rw [matchRound, hc, ht']
        simp only [if_pos ha]
        rw [← hn, ht.name_eq] at hn' hr'
        exact ⟨hp', hn', hr'⟩
      · obtain ⟨k, next, htokens, hk, -, -, hfits⟩ := exists_token ha hs
        have hp : t.pattern = k :: tokens (pattern.drop next) := by rw [ht.pattern_eq, htokens]
        have hstar : pattern[s.p]? ≠ some '*' := by simp [ha, hs]
        cases hf : k.fits c with
        | true =>
          obtain ⟨t', ht', hp', hn', hr'⟩ := step_fits hn hp hk hf
          have hnext : nextPlace? pattern s.p c = some next := by rw [hfits, if_pos hf]
          rw [matchRound, hc, ht']
          simp only [if_neg hstar, hnext]
          exact ⟨hp', hn', by rw [hr', ht.retry_eq]⟩
        | false =>
          refine follows_resume hb ht hc hstar ?_ (step_unfit hn ?_)
          · rw [hfits, if_neg (by simp [hf])]
          · simp [hp, hk, hf]

/-- **The loop ends with what matching comes to.** -/
theorem endsWith_run (hb : s.InBounds pattern name) (ht : s.Shows pattern name t) :
    EndsWith (matchRound pattern name) s (some (run t)) := by
  have hf := follows_matchRound hb ht
  fun_induction run t generalizing s with
  | case1 t t' hstep ih =>
    rw [hstep] at hf
    cases hround : matchRound pattern name s with
    | done answer => rw [hround] at hf; cases hf
    | more s' =>
      rw [hround] at hf
      have hb' := inBounds_matchRound hb hround
      exact (ih hb' hf (follows_matchRound hb' hf)).of_more hround
  | case2 t matched hstep =>
    rw [hstep] at hf
    cases hround : matchRound pattern name s with
    | done answer =>
      rw [hround] at hf
      cases hf
      exact endsWith_of_done hround
    | more s' => rw [hround] at hf; cases hf

/-- Places that rounds lead to are within bounds, and show a position of matching. -/
theorem inBounds_and_shows_of_reaches (h : Reaches (matchRound pattern name) .start s) :
    s.InBounds pattern name ∧ ∃ t, s.Shows pattern name t := by
  refine Reaches.keeps (P := fun s => s.InBounds pattern name ∧ ∃ t, s.Shows pattern name t)
    ?_ ⟨inBounds_start, _, shows_start⟩ h
  rintro s s' ⟨hb, t, ht⟩ hround
  refine ⟨inBounds_matchRound hb hround, ?_⟩
  have hf := follows_matchRound hb ht
  rw [hround] at hf
  cases hstep : step t with
  | more t' =>
    rw [hstep] at hf
    exact ⟨t', hf⟩
  | done matched => rw [hstep] at hf; cases hf

/-- **Matching by places ends, within bounds, with what matching comes to.**  Every round decreases
the measure, no state comes again, no place is beyond the end of the pattern or of the name, and so
the pattern is never cut behind its end; and every round does what a step of matching does.  Reading
a class ends, too, as every round goes forward and not beyond the end of the pattern; the end of the
class comes behind a closing bracket and is the same whatever the character is. -/
theorem matchRound_ends_in_bounds (pattern name : List Char) :
    (∀ s, Reaches (matchRound pattern name) .start s →
      s.p ≤ pattern.length ∧ s.n ≤ name.length ∧ matchRound pattern name s ≠ .done none ∧
      (∀ s', matchRound pattern name s = .more s' →
        Earlier (s'.measure pattern name) (s.measure pattern name)) ∧
      (∀ s', Relation.TransGen (LeadsTo (matchRound pattern name)) s s' → s' ≠ s) ∧
      ∃ t, s.Shows pattern name t ∧ (matchRound pattern name s).Follows pattern name (step t)) ∧
    EndsWith (matchRound pattern name) .start
      (some (wildcardMatch (String.ofList pattern) (String.ofList name))) ∧
    ∀ i, ∃ found : Option Nat,
      (∀ next ∈ found, i < next ∧ next ≤ pattern.length ∧ pattern[next - 1]? = some ']') ∧
      ∀ c, (matchClass pattern i c).map (·.2) = found ∧
        EndsWith (classRound pattern (negatedAt pattern (i + 1)) c) (.start pattern i)
          (matchClass pattern i c) ∧
        ∀ s s', classRound pattern (negatedAt pattern (i + 1)) c s = .more s' →
          s.place < s'.place ∧ s'.place ≤ pattern.length := by
  refine ⟨fun s hs => ?_, ?_, fun i => ?_⟩
  · obtain ⟨hb, t, ht⟩ := inBounds_and_shows_of_reaches hs
    have hf := follows_matchRound hb ht
    refine ⟨hb.p_le, hb.n_le, fun hnone => ?_, fun s' => measure_matchRound hb,
      fun s' => ne_of_transGen (fun _ _ => inBounds_matchRound) (fun _ _ => measure_matchRound) hb,
      t, ht, hf⟩
    rw [hnone] at hf
    cases hstep : step t with
    | more t' => rw [hstep] at hf; cases hf
    | done matched => rw [hstep] at hf; cases hf
  · rw [wildcardMatch, String.toList_ofList, String.toList_ofList]
    exact endsWith_run inBounds_start shows_start
  · have hc (c : Char) :
        EndsWith (classRound pattern (negatedAt pattern (i + 1)) c) (.start pattern i)
          (matchClass pattern i c) :=
      endsWith_readClass ..
    rcases matchClass_cases pattern i with ⟨-, hm⟩ | ⟨k, next, -, hlt, hle, hbracket, hm⟩
    · exact ⟨none, by simp, fun c => ⟨by rw [hm, Option.map_none], hc c,
        fun _ _ => classRound_more⟩⟩
    · refine ⟨some next, ?_, fun c => ⟨by rw [hm, Option.map_some], hc c,
        fun _ _ => classRound_more⟩⟩
      simpa using ⟨hlt, hle, hbracket⟩

end Wildcard

end SuitePool
