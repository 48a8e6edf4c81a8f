/-!
# Wildcards

A wildcard is a pattern for file names.  It is read from left to right as a list of tokens: `*`
stands for any run of characters, `?` for any one character, a bracketed class for one character of
that class, and every other character for itself.  A bracket that is never closed is such an other
character.

Matching goes through the name from left to right.  When a token does not fit, the most recent star
takes one more character and matching resumes behind it; no earlier star ever has to be
reconsidered.

## Main definitions

* `Wildcard.Token`, `Wildcard.tokens`: what a pattern says.
* `Wildcard.Position`, `Wildcard.step`: matching, one step at a time.
* `Wildcard.run`, `wildcardMatch`

## Main results

* `Wildcard.step_decreases`: every step brings matching nearer to its end.
-/

namespace SuitePool

namespace Wildcard

/-! ## What a pattern says -/

/-- An item of a class. -/
inductive Item where
  /-- One character. -/
  | char (c : Char)
  /-- All characters from `first` to `last`. -/
  | range (first last : Char)
  deriving DecidableEq

def Item.contains : Item → Char → Bool
  | .char a, c => a == c
  | .range a b, c => a ≤ c && c ≤ b

/-- A class of characters. -/
structure CharSet where
  /-- Are the characters of no item meant? -/
  negated : Bool
  /-- The items between the brackets. -/
  items : List Item
  deriving DecidableEq

def CharSet.contains (k : CharSet) (c : Char) : Bool :=
  (k.items.any (·.contains c)) != k.negated

/-- A token of a pattern. -/
inductive Token where
  /-- Any run of characters. -/
  | star
  /-- Any one character. -/
  | any
  /-- One character of a class. -/
  | oneOf (k : CharSet)
  | char (c : Char)
  deriving DecidableEq

/-- Does a token that stands for one character stand for this one? -/
def Token.fits : Token → Char → Bool
  | .star, _ => false
  | .any, _ => true
  | .oneOf k, c => k.contains c
  | .char a, c => a == c

/-- Reads the items of a class up to the closing bracket, which is not the first item. -/
def readItems (first : Bool) : List Char → Option (List Item × List Char)
  | [] => none
  | c :: '-' :: b :: cs =>
    if c = ']' ∧ first = false then some ([], '-' :: b :: cs)
    -- A hyphen before the closing bracket is no range.
    else if b = ']' then (readItems false ('-' :: b :: cs)).map fun p => (.char c :: p.1, p.2)
    else (readItems false cs).map fun p => (.range c b :: p.1, p.2)
  | c :: cs =>
    if c = ']' ∧ first = false then some ([], cs)
    else (readItems false cs).map fun p => (.char c :: p.1, p.2)

/-- Reads a class after its opening bracket. -/
def readSet : List Char → Option (CharSet × List Char)
  | '!' :: cs | '^' :: cs => (readItems true cs).map fun p => (⟨true, p.1⟩, p.2)
  | cs => (readItems true cs).map fun p => (⟨false, p.1⟩, p.2)

theorem readItems_length {first : Bool} {cs rest : List Char} {items : List Item}
    (h : readItems first cs = some (items, rest)) : rest.length < cs.length := by
  fun_induction readItems first cs generalizing items rest with
  | case1 => simp at h
  | case2 => simp_all
  | case3 =>
    rename_i ih
    simp only [Option.map_eq_some_iff, Prod.mk.injEq, Prod.exists] at h
    obtain ⟨_, _, h, -, rfl⟩ := h
    have := ih h
    simp only [List.length_cons] at this ⊢
    omega
  | case4 =>
    rename_i ih
    simp only [Option.map_eq_some_iff, Prod.mk.injEq, Prod.exists] at h
    obtain ⟨_, _, h, -, rfl⟩ := h
    have := ih h
    simp only [List.length_cons]
    omega
  | case5 => simp_all
  | case6 =>
    rename_i ih
    simp only [Option.map_eq_some_iff, Prod.mk.injEq, Prod.exists] at h
    obtain ⟨_, _, h, -, rfl⟩ := h
    have := ih h
    simp only [List.length_cons]
    omega

theorem readSet_length {cs rest : List Char} {k : CharSet}
    (h : readSet cs = some (k, rest)) : rest.length < cs.length := by
  have items {negated : Bool} {cs : List Char}
      (h : (readItems true cs).map (fun p => ((⟨negated, p.1⟩ : CharSet), p.2)) = some (k, rest)) :
      rest.length < cs.length := by
    simp only [Option.map_eq_some_iff, Prod.mk.injEq, Prod.exists] at h
    obtain ⟨_, _, found, -, rfl⟩ := h
    exact readItems_length found
  simp only [readSet] at h
  split at h
  · have := items h
    simp only [List.length_cons]
    omega
  · have := items h
    simp only [List.length_cons]
    omega
  · exact items h

/-- **The tokens of a pattern.** -/
def tokens : List Char → List Token
  | [] => []
  | c :: cs =>
    if c = '*' then .star :: tokens cs
    else if c = '?' then .any :: tokens cs
    else if c = '[' then
      match _h : readSet cs with
      | some (k, rest) => .oneOf k :: tokens rest
      | none => .char '[' :: tokens cs
    else .char c :: tokens cs
termination_by cs => cs.length
decreasing_by
  all_goals simp only [List.length_cons]
  all_goals try omega
  have := readSet_length _h
  omega

/-! ## Matching -/

/-- A place to resume at: the tokens behind a star, and the name from where they were last tried. -/
structure Retry where
  pattern : List Token
  name : List Char
  deriving DecidableEq

/-- A position of matching.  What is left of the pattern and of the name never exceeds what was
left at the place to resume at. -/
structure Position where
  /-- The tokens that are left. -/
  pattern : List Token
  /-- The characters that are left. -/
  name : List Char
  /-- Where to resume when a token does not fit; nowhere before the first star. -/
  retry : Option Retry
  /-- The tokens left are no more than those behind the star. -/
  pattern_le : ∀ r, retry = some r → pattern.length ≤ r.pattern.length
  /-- The characters left are no more than at the last try. -/
  name_le : ∀ r, retry = some r → name.length ≤ r.name.length

/-- The start of matching. -/
def Position.start (pattern : List Token) (name : List Char) : Position :=
  ⟨pattern, name, none, by simp, by simp⟩

/-- What one step leads to. -/
inductive Outcome where
  /-- Matching goes on. -/
  | more (s : Position)
  /-- Matching has ended. -/
  | done (matched : Bool)

/-- The most recent star takes one more character. -/
def resume (s : Position) : Outcome :=
  match s.retry with
  | none => .done false
  | some r =>
    match r.name with
    | [] => .done false
    | _ :: cs => .more ⟨r.pattern, cs, some ⟨r.pattern, cs⟩,
        fun _ h => by cases h; exact Nat.le_refl _, fun _ h => by cases h; exact Nat.le_refl _⟩

/-- **One step of matching.** -/
def step (s : Position) : Outcome :=
  match hn : s.name, hp : s.pattern with
  | [], ts => .done (ts.all (· == .star))
  -- The new star first takes nothing; an older star is never tried again.
  | c :: cs, .star :: ts => .more ⟨ts, c :: cs, some ⟨ts, c :: cs⟩,
      fun _ h => by cases h; exact Nat.le_refl _, fun _ h => by cases h; exact Nat.le_refl _⟩
  | c :: cs, t :: ts =>
    if t.fits c then .more ⟨ts, cs, s.retry,
      fun r h => by have := s.pattern_le r h; simp only [hp, List.length_cons] at this; omega,
      fun r h => by have := s.name_le r h; simp only [hn, List.length_cons] at this; omega⟩
    else resume s
  | _ :: _, [] => resume s

/-- How far matching is from its end.  A new star leaves fewer tokens behind it; a retry leaves
fewer characters to retry with; and a token that fits leaves fewer characters. -/
def Position.measure (s : Position) : Nat × Nat × Nat :=
  match s.retry with
  | none => (s.pattern.length + 1, 0, s.name.length)
  | some r => (r.pattern.length, r.name.length, s.name.length)

/-- The order in which the measure of positions decreases. -/
abbrev Earlier : Nat × Nat × Nat → Nat × Nat × Nat → Prop :=
  Prod.Lex (· < ·) (Prod.Lex (· < ·) (· < ·))

/-- A retry brings matching nearer to its end. -/
theorem resume_decreases {s s' : Position} (h : resume s = .more s') :
    Earlier s'.measure s.measure := by
  simp only [resume] at h
  split at h
  · simp at h
  · rename_i r hr
    split at h
    · simp at h
    · rename_i c cs hn
      simp only [Outcome.more.injEq] at h
      subst h
      simp only [Position.measure, hr, hn, List.length_cons]
      exact .right _ (.left _ _ (by omega))

/-- **Every step brings matching nearer to its end.** -/
theorem step_decreases {s s' : Position} (h : step s = .more s') :
    Earlier s'.measure s.measure := by
  simp only [step] at h
  split at h
  · simp at h
  · rename_i c cs ts hn hp
    simp only [Outcome.more.injEq] at h
    subst h
    cases hr : s.retry with
    | none => simp only [Position.measure, hr, hp, List.length_cons]; exact .left _ _ (by omega)
    | some r =>
      have := s.pattern_le r hr
      simp only [hp, List.length_cons] at this
      simp only [Position.measure, hr]
      exact .left _ _ (by omega)
  · rename_i c cs t ts _ hn hp
    split at h
    · simp only [Outcome.more.injEq] at h
      subst h
      rcases Option.eq_none_or_eq_some s.retry with hr | ⟨r, hr⟩
      · simp only [Position.measure, hr, hp, List.length_cons]
        exact .left _ _ (by omega)
      · simp only [Position.measure, hr, hn, List.length_cons]
        exact .right _ (.right _ (by omega))
    · exact resume_decreases h
  · exact resume_decreases h

/-- The steps from a position to the end. -/
def run (s : Position) : Bool :=
  match _h : step s with
  | .more s' => run s'
  | .done matched => matched
termination_by s.measure
decreasing_by exact step_decreases _h

end Wildcard

/-- **Does a pattern match a whole name?** -/
def wildcardMatch (pattern name : String) : Bool :=
  Wildcard.run (.start (Wildcard.tokens pattern.toList) name.toList)

end SuitePool
