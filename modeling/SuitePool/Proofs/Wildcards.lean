import Mathlib.Data.List.Forall2
import Mathlib.Tactic.Common
import SuitePool.Wildcard

/-!
# The language of a wildcard

A pattern has one reading as tokens, whatever name it is matched against, and it matches the names
that can be cut into pieces, one for each token, so that every piece is what its token stands for.

Matching keeps only the most recent star to resume from.  No match is lost by that: between two
stars every token stands for one character, so whatever an older star could still take is taken by
the newer one as well.

## Main definitions

* `Reads`: how a pattern is read, with `ReadsItems` and `ReadsSet` for its classes.
* `Token.StandsFor`, `Matches`: what tokens mean.
* `Position.Aligned`: what was passed since the most recent star.
* `Position.Accepts`: what can still be matched from a position.
* `Outcome.Keeps`: what a step has to keep.

## Main results

* `reads_iff`: a pattern has one reading.
* `keeps_step`: one step of matching keeps what can be matched.
* `run_eq_true_iff`: matching from a position.
* `wildcardMatch_iff`: the names that a pattern matches.
-/

namespace SuitePool

namespace Wildcard

/-! ## How a pattern is read -/

/-- **The items of a class**, read up to the first closing bracket that is not the first item; what
is behind the bracket is left. -/
inductive ReadsItems : (first : Bool) → List Char → List Item → List Char → Prop where
  /-- The closing bracket. -/
  | close {rest : List Char} : ReadsItems false (']' :: rest) [] rest
  /-- A hyphen between two characters, of which the second is no bracket, makes a range of them. -/
  | range {first : Bool} {a b : Char} {cs rest : List Char} {items : List Item}
      (ha : a = ']' → first = true) (hb : b ≠ ']') (h : ReadsItems false cs items rest) :
      ReadsItems first (a :: '-' :: b :: cs) (.range a b :: items) rest
  /-- Any other item is a single character. -/
  | char {first : Bool} {a : Char} {cs rest : List Char} {items : List Item}
      (ha : a = ']' → first = true) (hr : ∀ b more, cs = '-' :: b :: more → b = ']')
      (h : ReadsItems false cs items rest) : ReadsItems first (a :: cs) (.char a :: items) rest

/-- The marks of negation, which may stand before the items of a class. -/
def IsNegation (c : Char) : Prop := c = '!' ∨ c = '^'

/-- **A class**, read behind its opening bracket. -/
inductive ReadsSet : List Char → CharSet → List Char → Prop where
  /-- With a mark of negation. -/
  | negated {c : Char} {cs rest : List Char} {items : List Item} (hc : IsNegation c)
      (h : ReadsItems true cs items rest) : ReadsSet (c :: cs) ⟨true, items⟩ rest
  /-- Without one. -/
  | plain {cs rest : List Char} {items : List Item} (hc : ∀ c ∈ cs.head?, ¬ IsNegation c)
      (h : ReadsItems true cs items rest) : ReadsSet cs ⟨false, items⟩ rest

/-- What stands behind an opening bracket and a mark of negation. -/
def behindNegation : List Char → List Char
  | '!' :: cs | '^' :: cs => cs
  | cs => cs

/-- **How a pattern is read** as tokens, from left to right. -/
inductive Reads : List Char → List Token → Prop where
  | nil : Reads [] []
  | star {cs : List Char} {ts : List Token} (h : Reads cs ts) : Reads ('*' :: cs) (.star :: ts)
  | any {cs : List Char} {ts : List Token} (h : Reads cs ts) : Reads ('?' :: cs) (.any :: ts)
  /-- A bracket opens a class if one can be read behind it. -/
  | oneOf {cs rest : List Char} {k : CharSet} {ts : List Token} (hk : ReadsSet cs k rest)
      (h : Reads rest ts) : Reads ('[' :: cs) (.oneOf k :: ts)
  /-- A bracket that is not closed behind the first item stands for itself. -/
  | bracket {cs : List Char} {ts : List Token} (hk : ']' ∉ (behindNegation cs).tail)
      (h : Reads cs ts) : Reads ('[' :: cs) (.char '[' :: ts)
  /-- Any other character stands for itself. -/
  | char {c : Char} {cs : List Char} {ts : List Token} (hs : c ≠ '*') (ha : c ≠ '?') (hb : c ≠ '[')
      (h : Reads cs ts) : Reads (c :: cs) (.char c :: ts)

/-! ## Reading is what readers do -/

theorem readItems_close (rest : List Char) : readItems false (']' :: rest) = some ([], rest) := by
  rw [readItems.eq_def]
  split
  · next h => cases h
  · next h => cases h; rw [if_pos ⟨rfl, rfl⟩]
  · next h => cases h; rw [if_pos ⟨rfl, rfl⟩]

theorem readItems_range {first : Bool} {a b : Char} (cs : List Char) (ha : a = ']' → first = true)
    (hb : b ≠ ']') : readItems first (a :: '-' :: b :: cs) =
      (readItems false cs).map fun p => (.range a b :: p.1, p.2) := by
  rw [readItems, if_neg (by simpa using ha), if_neg hb]

theorem readItems_char {first : Bool} {a : Char} {cs : List Char} (ha : a = ']' → first = true)
    (hr : ∀ b more, cs = '-' :: b :: more → b = ']') :
    readItems first (a :: cs) = (readItems false cs).map fun p => (.char a :: p.1, p.2) := by
  have hn : ¬ (a = ']' ∧ first = false) := by simpa using ha
  rw [readItems.eq_def]
  split
  · next h => cases h
  · next h =>
    -- The hyphen stands before the closing bracket.
    cases h
    rw [if_neg hn, if_pos (hr _ _ rfl)]
  · next h =>
    cases h
    rw [if_neg hn]

theorem readItems_eq_some_iff {first : Bool} {cs rest : List Char} {items : List Item} :
    readItems first cs = some (items, rest) ↔ ReadsItems first cs items rest := by
  constructor
  · intro h
    fun_induction readItems first cs generalizing items rest with
    | case1 => cases h
    | case2 first c b cs hc | case5 first c cs _ hc =>
      obtain ⟨rfl, rfl⟩ := hc
      cases h
      exact .close
    | case3 first c cs hc ih =>
      obtain ⟨⟨items, rest⟩, hread, he⟩ := Option.map_eq_some_iff.1 h
      cases he
      exact .char (by simpa using hc) (fun b more he => by cases he; rfl) (ih hread)
    | case4 first c b cs hc hb ih =>
      obtain ⟨⟨items, rest⟩, hread, he⟩ := Option.map_eq_some_iff.1 h
      cases he
      exact .range (by simpa using hc) hb (ih hread)
    | case6 first c cs hr hc ih =>
      obtain ⟨⟨items, rest⟩, hread, he⟩ := Option.map_eq_some_iff.1 h
      cases he
      exact .char (by simpa using hc) (fun b more he => (hr b more he).elim) (ih hread)
  · intro h
    induction h with
    | close => exact readItems_close _
    | range ha hb h ih => rw [readItems_range _ ha hb, ih, Option.map_some]
    | char ha hr h ih => rw [readItems_char ha hr, ih, Option.map_some]

/-- No items are read where no closing bracket is found; at the first place it would be an item. -/
theorem readItems_eq_none_iff {first : Bool} {cs : List Char} :
    readItems first cs = none ↔ ']' ∉ if first then cs.tail else cs := by
  fun_induction readItems first cs with
  | case1 first => cases first <;> simp
  | case2 first c b cs hc | case5 first c cs _ hc => simp [hc]
  | case3 first c cs hc ih =>
    rw [Option.map_eq_none_iff, ih]
    cases first <;> simp
  | case4 first c b cs hc hb ih =>
    rw [Option.map_eq_none_iff, ih]
    cases first <;> simp_all [eq_comm]
  | case6 first c cs hr hc ih =>
    rw [Option.map_eq_none_iff, ih]
    cases first <;> simp_all [eq_comm]

theorem readSet_negated {c : Char} (hc : IsNegation c) (cs : List Char) :
    readSet (c :: cs) = (readItems true cs).map fun p => (⟨true, p.1⟩, p.2) := by
  rcases hc with rfl | rfl <;> rfl

theorem readSet_plain {cs : List Char} (hc : ∀ c ∈ cs.head?, ¬ IsNegation c) :
    readSet cs = (readItems true cs).map fun p => (⟨false, p.1⟩, p.2) := by
  rw [readSet.eq_def]
  split
  · exact absurd (.inl rfl) (hc '!' rfl)
  · exact absurd (.inr rfl) (hc '^' rfl)
  · rfl

/-- A text begins with a mark of negation, or it does not. -/
theorem negation_cases (cs : List Char) :
    (∃ c more, cs = c :: more ∧ IsNegation c) ∨ ∀ c ∈ cs.head?, ¬ IsNegation c := by
  cases cs with
  | nil => exact .inr (by simp)
  | cons c more =>
    by_cases hc : IsNegation c
    · exact .inl ⟨c, more, rfl, hc⟩
    · exact .inr (by simpa using hc)

theorem readSet_eq_some_iff {cs rest : List Char} {k : CharSet} :
    readSet cs = some (k, rest) ↔ ReadsSet cs k rest := by
  constructor
  · intro h
    rcases negation_cases cs with ⟨c, more, rfl, hc⟩ | hc
    · rw [readSet_negated hc] at h
      obtain ⟨⟨items, rest⟩, hread, he⟩ := Option.map_eq_some_iff.1 h
      cases he
      exact .negated hc (readItems_eq_some_iff.1 hread)
    · rw [readSet_plain hc] at h
      obtain ⟨⟨items, rest⟩, hread, he⟩ := Option.map_eq_some_iff.1 h
      cases he
      exact .plain hc (readItems_eq_some_iff.1 hread)
  · intro h
    cases h with
    | negated hc h => rw [readSet_negated hc, readItems_eq_some_iff.2 h, Option.map_some]
    | plain hc h => rw [readSet_plain hc, readItems_eq_some_iff.2 h, Option.map_some]

/-- **A bracket opens no class** if it is not closed behind the first item. -/
theorem readSet_eq_none_iff {cs : List Char} :
    readSet cs = none ↔ ']' ∉ (behindNegation cs).tail := by
  rw [readSet.eq_def, behindNegation.eq_def]
  split <;> simp [readItems_eq_none_iff]

/-- The reading that tokens are made by. -/
theorem reads_tokens (cs : List Char) : Reads cs (tokens cs) := by
  fun_induction tokens cs with
  | case1 => exact .nil
  | case2 cs ih => exact .star ih
  | case3 cs _ ih => exact .any ih
  | case4 cs k rest hk _ _ ih => exact .oneOf (readSet_eq_some_iff.1 hk) ih
  | case5 cs hk _ _ ih => exact .bracket (readSet_eq_none_iff.1 hk) ih
  | case6 c cs hs ha hb ih => exact .char hs ha hb ih

/-- **A pattern has one reading.** -/
theorem reads_iff {cs : List Char} {ts : List Token} : Reads cs ts ↔ ts = tokens cs := by
  constructor
  · intro h
    induction h with
    | nil => rw [tokens]
    | star h ih => rw [tokens, ih, if_pos rfl]
    | any h ih => rw [tokens, ih, if_neg (by decide), if_pos rfl]
    | oneOf hk h ih =>
      rw [tokens, if_neg (by decide), if_neg (by decide), if_pos rfl]
      rw [← readSet_eq_some_iff] at hk
      split
      · next h => rw [hk] at h; cases h; rw [ih]
      · next h => rw [hk] at h; cases h
    | bracket hk h ih =>
      rw [tokens, if_neg (by decide), if_neg (by decide), if_pos rfl]
      rw [← readSet_eq_none_iff] at hk
      split
      · next h => rw [hk] at h; cases h
      · rw [ih]
    | char hs ha hb h ih => rw [tokens, if_neg hs, if_neg ha, if_neg hb, ih]
  · rintro rfl
    exact reads_tokens cs

/-! ## What tokens mean -/

/-- **The characters that an item means.** -/
def Item.Means : Item → Char → Prop
  | .char a, c => c = a
  | .range a b, c => a ≤ c ∧ c ≤ b

/-- **The characters that a class means**: those of some item, or those of none. -/
def CharSet.Means (k : CharSet) (c : Char) : Prop :=
  if k.negated then ∀ i ∈ k.items, ¬ i.Means c else ∃ i ∈ k.items, i.Means c

/-- **What a token stands for**: a piece of a name. -/
inductive Token.StandsFor : Token → List Char → Prop where
  /-- A star stands for any run of characters. -/
  | star (piece : List Char) : StandsFor .star piece
  /-- A question mark stands for any one character. -/
  | any (c : Char) : StandsFor .any [c]
  /-- A class stands for one of the characters it means. -/
  | oneOf {k : CharSet} {c : Char} (h : k.Means c) : StandsFor (.oneOf k) [c]
  /-- Any other character stands for itself. -/
  | char (c : Char) : StandsFor (.char c) [c]

/-- **Do tokens match a name?**  The name can be cut into pieces, one for each token, that the
tokens stand for. -/
def Matches (ts : List Token) (cs : List Char) : Prop :=
  ∃ pieces, List.Forall₂ Token.StandsFor ts pieces ∧ pieces.flatten = cs

theorem Item.contains_iff {i : Item} {c : Char} : i.contains c = true ↔ i.Means c := by
  cases i with
  | char a => exact beq_iff_eq.trans eq_comm
  | range a b => simp [Item.contains, Item.Means]

theorem CharSet.contains_iff {k : CharSet} {c : Char} : k.contains c = true ↔ k.Means c := by
  obtain ⟨negated, items⟩ := k
  cases negated <;> simp [CharSet.contains, CharSet.Means, ← Item.contains_iff]

/-- A token that fits stands for the one character. -/
theorem Token.fits_iff {t : Token} {c : Char} :
    t.fits c = true ↔ t ≠ .star ∧ t.StandsFor [c] := by
  cases t with
  | star => simp [Token.fits]
  | any => simpa [Token.fits] using Token.StandsFor.any c
  | oneOf k =>
    rw [Token.fits, CharSet.contains_iff]
    constructor
    · exact fun h => ⟨by simp, .oneOf h⟩
    · rintro ⟨-, h⟩
      cases h with
      | oneOf h => exact h
  | char a =>
    rw [Token.fits, beq_iff_eq]
    constructor
    · rintro rfl
      exact ⟨by simp, .char a⟩
    · rintro ⟨-, h⟩
      cases h
      rfl

/-- Every token but a star stands for one character. -/
theorem Token.StandsFor.eq_singleton {t : Token} {piece : List Char} (h : t.StandsFor piece)
    (ht : t ≠ .star) : ∃ c, piece = [c] := by
  cases h with
  | star => exact absurd rfl ht
  | any c | oneOf _ | char c => exact ⟨_, rfl⟩

theorem matches_nil_iff {cs : List Char} : Matches [] cs ↔ cs = [] := by
  simp [Matches, eq_comm]

theorem matches_cons_iff {t : Token} {ts : List Token} {cs : List Char} :
    Matches (t :: ts) cs ↔
      ∃ piece rest, cs = piece ++ rest ∧ t.StandsFor piece ∧ Matches ts rest := by
  constructor
  · rintro ⟨_, h, rfl⟩
    cases h with
    | @cons _ piece _ pieces ht hts => exact ⟨piece, pieces.flatten, rfl, ht, pieces, hts, rfl⟩
  · rintro ⟨piece, _, rfl, ht, pieces, hts, rfl⟩
    exact ⟨piece :: pieces, .cons ht hts, rfl⟩

/-- A star goes on anywhere. -/
theorem matches_star_iff {ts : List Token} {cs : List Char} :
    Matches (.star :: ts) cs ↔ ∃ rest, rest <:+ cs ∧ Matches ts rest := by
  rw [matches_cons_iff]
  constructor
  · rintro ⟨piece, rest, rfl, -, h⟩
    exact ⟨rest, List.suffix_append .., h⟩
  · rintro ⟨rest, ⟨piece, rfl⟩, h⟩
    exact ⟨piece, rest, rfl, .star piece, h⟩

/-- Any other token takes one character. -/
theorem matches_cons_cons_iff {t : Token} (ht : t ≠ .star) {ts : List Token} {c : Char}
    {cs : List Char} : Matches (t :: ts) (c :: cs) ↔ t.fits c = true ∧ Matches ts cs := by
  rw [matches_cons_iff, Token.fits_iff]
  constructor
  · rintro ⟨piece, rest, he, hpiece, h⟩
    obtain ⟨d, rfl⟩ := hpiece.eq_singleton ht
    cases he
    exact ⟨⟨ht, hpiece⟩, h⟩
  · rintro ⟨⟨-, hc⟩, h⟩
    exact ⟨[c], cs, rfl, hc, h⟩

/-- Only stars match nothing. -/
theorem matches_empty_iff {ts : List Token} : Matches ts [] ↔ ts.all (· == .star) = true := by
  induction ts with
  | nil => simp [matches_nil_iff]
  | cons t ts ih =>
    rw [List.all_cons, Bool.and_eq_true, ← ih, beq_iff_eq, matches_cons_iff]
    constructor
    · rintro ⟨piece, rest, he, hpiece, h⟩
      obtain ⟨rfl, rfl⟩ := List.append_eq_nil_iff.1 he.symm
      refine ⟨by_contra fun ht => ?_, h⟩
      obtain ⟨c, hc⟩ := hpiece.eq_singleton ht
      cases hc
    · rintro ⟨rfl, h⟩
      exact ⟨[], [], rfl, .star [], h⟩

theorem matches_append_iff {ts us : List Token} {cs : List Char} :
    Matches (ts ++ us) cs ↔ ∃ as bs, cs = as ++ bs ∧ Matches ts as ∧ Matches us bs := by
  induction ts generalizing cs with
  | nil => simp [matches_nil_iff]
  | cons t ts ih =>
    simp only [List.cons_append, matches_cons_iff, ih]
    constructor
    · rintro ⟨piece, _, rfl, hp, as, bs, rfl, ha, hb⟩
      exact ⟨piece ++ as, bs, (List.append_assoc ..).symm, ⟨piece, as, rfl, hp, ha⟩, hb⟩
    · rintro ⟨_, bs, rfl, ⟨piece, as, rfl, hp, ha⟩, hb⟩
      exact ⟨piece, as ++ bs, List.append_assoc .., hp, as, bs, rfl, ha, hb⟩

/-! ## What can still be matched -/

/-- Do tokens fit characters, one each? -/
abbrev Fit : List Token → List Char → Prop := List.Forall₂ fun t c => t.fits c = true

/-- Tokens that fit characters match as many of them, and no others. -/
theorem length_of_matches {ts : List Token} {passed as : List Char} (hf : Fit ts passed)
    (h : Matches ts as) : as.length = passed.length := by
  induction hf generalizing as with
  | nil => rw [matches_nil_iff.1 h]
  | @cons t c ts passed ht _ ih =>
    obtain ⟨piece, rest, rfl, hpiece, hrest⟩ := matches_cons_iff.1 h
    obtain ⟨d, rfl⟩ := hpiece.eq_singleton (Token.fits_iff.1 ht).1
    rw [List.singleton_append, List.length_cons, List.length_cons, ih hrest]

/-- **What was passed since the most recent star**: tokens that fit the characters passed. -/
def Position.Aligned (s : Position) : Prop :=
  ∀ r ∈ s.retry, ∃ front passed,
    r.pattern = front ++ s.pattern ∧ r.name = passed ++ s.name ∧ Fit front passed

/-- Can a star be resumed?  It takes at least one more character. -/
def Retry.Accepts (r : Retry) : Prop :=
  ∃ rest, rest <:+ r.name ∧ rest ≠ r.name ∧ Matches r.pattern rest

/-- **What can still be matched** from a position: what is left, or what the most recent star can be
resumed with. -/
def Position.Accepts (s : Position) : Prop :=
  Matches s.pattern s.name ∨ ∃ r ∈ s.retry, r.Accepts

/-- A star that has just been met, or resumed, goes on anywhere in what is left. -/
theorem accepts_from_iff {ts : List Token} {cs : List Char} :
    (Matches ts cs ∨ Retry.Accepts ⟨ts, cs⟩) ↔ ∃ rest, rest <:+ cs ∧ Matches ts rest := by
  constructor
  · rintro (h | ⟨rest, hrest, -, h⟩)
    · exact ⟨cs, List.suffix_rfl, h⟩
    · exact ⟨rest, hrest, h⟩
  · rintro ⟨rest, hrest, h⟩
    by_cases he : rest = cs
    · exact .inl (he ▸ h)
    · exact .inr ⟨rest, hrest, he, h⟩

/-- A star that is resumed takes one more character. -/
theorem Retry.accepts_cons_iff {ts : List Token} {c : Char} {cs : List Char} :
    Retry.Accepts ⟨ts, c :: cs⟩ ↔ ∃ rest, rest <:+ cs ∧ Matches ts rest := by
  constructor
  · rintro ⟨rest, hrest, hne, h⟩
    exact ⟨rest, (List.suffix_cons_iff.1 hrest).resolve_left hne, h⟩
  · rintro ⟨rest, hrest, h⟩
    refine ⟨rest, hrest.trans (List.suffix_cons c cs), ?_, h⟩
    rintro rfl
    exact absurd hrest.length_le (by simp)

/-- **What an older star could take, a newer one takes as well.**  The tokens between them fit the
characters that were passed, and no match needs fewer of them. -/
theorem matches_of_older_star {r : Retry} {front ts : List Token} {passed cs : List Char}
    (hp : r.pattern = front ++ .star :: ts) (hn : r.name = passed ++ cs) (hf : Fit front passed)
    (h : r.Accepts) : Matches (.star :: ts) cs := by
  obtain ⟨_, ⟨taken, htaken⟩, -, hmatch⟩ := h
  rw [hp] at hmatch
  obtain ⟨as, bs, rfl, has, hbs⟩ := matches_append_iff.1 hmatch
  have hlength := length_of_matches hf has
  -- What the newer star would be left with is a part of what is left now.
  have hsuffix : bs <:+ cs := by
    have hbs : bs <:+ passed ++ cs := ⟨taken ++ as, by rw [← hn, ← htaken, List.append_assoc]⟩
    refine List.suffix_of_suffix_length_le hbs (List.suffix_append ..) ?_
    have := congrArg List.length (htaken.trans hn)
    simp only [List.length_append] at this
    omega
  obtain ⟨rest, hrest, h⟩ := matches_star_iff.1 hbs
  exact matches_star_iff.2 ⟨rest, hrest.trans hsuffix, h⟩

/-- At the end of the name no star can take more, because the tokens behind it took all of it. -/
theorem not_accepts_at_end {r : Retry} {front ts : List Token} {passed : List Char}
    (hp : r.pattern = front ++ ts) (hn : r.name = passed) (hf : Fit front passed) :
    ¬ r.Accepts := by
  rintro ⟨_, hsuffix, hne, hmatch⟩
  rw [hp] at hmatch
  obtain ⟨as, bs, rfl, has, -⟩ := matches_append_iff.1 hmatch
  have hlength := length_of_matches hf has
  refine hne (hsuffix.eq_of_length_le ?_)
  rw [hn, List.length_append]
  omega

/-- A position from which the most recent star is resumed is aligned. -/
theorem Position.aligned_of_fresh {s : Position} (h : ∀ r ∈ s.retry, r = ⟨s.pattern, s.name⟩) :
    s.Aligned := by
  intro r hr
  obtain rfl := h r hr
  exact ⟨[], [], rfl, rfl, .nil⟩

namespace Position.Aligned

variable {s : Position}

/-- At the end of the name only stars may be left. -/
theorem accepts_end_iff (ha : s.Aligned) (hn : s.name = []) :
    s.Accepts ↔ s.pattern.all (· == .star) = true := by
  have hnone : ¬ ∃ r ∈ s.retry, r.Accepts := by
    rintro ⟨r, hr, h⟩
    obtain ⟨front, passed, hp, hname, hf⟩ := ha r hr
    rw [hn, List.append_nil] at hname
    exact not_accepts_at_end hp hname hf h
  rw [Position.Accepts, or_iff_left hnone, hn, matches_empty_iff]

/-- Where a star is met, an older one is not needed. -/
theorem accepts_star_iff (ha : s.Aligned) {ts : List Token} (hp : s.pattern = .star :: ts) :
    s.Accepts ↔ ∃ rest, rest <:+ s.name ∧ Matches ts rest := by
  have holder : (∃ r ∈ s.retry, r.Accepts) → Matches s.pattern s.name := by
    rintro ⟨r, hr, h⟩
    obtain ⟨front, passed, hpattern, hname, hf⟩ := ha r hr
    rw [hp] at hpattern ⊢
    exact matches_of_older_star hpattern hname hf h
  rw [Position.Accepts, or_iff_left_of_imp holder, hp, matches_star_iff]

/-- A character that is passed belongs to what the star leaves behind. -/
theorem pass (ha : s.Aligned) {s' : Position} {t : Token} {c : Char}
    (hp : s.pattern = t :: s'.pattern) (hn : s.name = c :: s'.name) (hr : s'.retry = s.retry)
    (hfits : t.fits c = true) : s'.Aligned := by
  intro r hr'
  obtain ⟨front, passed, hpattern, hname, hf⟩ := ha r (hr ▸ hr')
  rw [hp, List.append_cons] at hpattern
  rw [hn, List.append_cons] at hname
  exact ⟨front ++ [t], passed ++ [c], hpattern, hname, List.rel_append hf (.cons hfits .nil)⟩

end Position.Aligned

/-! ## Steps -/

/-- **An outcome keeps what can be matched**: matching goes on with the same, or has told whether
there is anything. -/
def Outcome.Keeps (s : Position) : Outcome → Prop
  | .more s' => s'.Aligned ∧ (s'.Accepts ↔ s.Accepts)
  | .done matched => matched = true ↔ s.Accepts

theorem keeps_resume {s : Position} (hm : ¬ Matches s.pattern s.name) : (resume s).Keeps s := by
  have hs : s.Accepts ↔ ∃ r ∈ s.retry, r.Accepts := or_iff_right hm
  rw [resume]
  split
  · next hr => simp [Outcome.Keeps, hs, hr]
  · next r hr =>
    obtain ⟨ts, cs⟩ := r
    split
    · next hn =>
      -- There is no character left that the star could take.
      obtain rfl : cs = [] := hn
      simp [Outcome.Keeps, hs, hr, Retry.Accepts]
    · next c cs hn =>
      cases hn
      refine ⟨Position.aligned_of_fresh (by simp), ?_⟩
      rw [hs, hr]
      simp only [Position.Accepts, Option.mem_some_iff, exists_eq_left', accepts_from_iff,
        Retry.accepts_cons_iff]

/-- **One step of matching** keeps what can be matched. -/
theorem keeps_step {s : Position} (ha : s.Aligned) : (step s).Keeps s := by
  rw [step.eq_def]
  split
  · next hn => exact (ha.accepts_end_iff hn).symm
  · next c cs ts hn hp =>
    -- The new star takes the place of an older one.
    refine ⟨Position.aligned_of_fresh (by simp), ?_⟩
    rw [ha.accepts_star_iff hp, hn]
    simp only [Position.Accepts, Option.mem_some_iff, exists_eq_left', accepts_from_iff]
  · next c cs t ts ht hn hp =>
    have hmatch : Matches s.pattern s.name ↔ t.fits c = true ∧ Matches ts cs := by
      rw [hp, hn, matches_cons_cons_iff ht]
    split
    · next hfits =>
      refine ⟨ha.pass hp hn rfl hfits, ?_⟩
      rw [Position.Accepts, Position.Accepts, hmatch, and_iff_right hfits]
    · next hfits => exact keeps_resume (by rw [hmatch]; exact fun h => hfits h.1)
  · next c cs hn hp =>
    exact keeps_resume (by rw [hp, hn, matches_nil_iff]; simp)

/-- **Matching from a position** tells whether anything can be matched. -/
theorem run_eq_true_iff {s : Position} (ha : s.Aligned) : run s = true ↔ s.Accepts := by
  fun_induction run s with
  | case1 s s' hs ih =>
    have hk := keeps_step ha
    rw [hs] at hk
    exact (ih hk.1).trans hk.2
  | case2 s matched hs =>
    have hk := keeps_step ha
    rw [hs] at hk
    exact hk

end Wildcard

/-- **The names that a pattern matches.**  A pattern has one reading as tokens, whatever name it is
matched against, and it matches the names that can be cut into pieces that its tokens stand for. -/
theorem wildcardMatch_iff (pattern : String) :
    ∃ ts, (∀ ts', Wildcard.Reads pattern.toList ts' ↔ ts' = ts) ∧
      ∀ name, wildcardMatch pattern name = true ↔ Wildcard.Matches ts name.toList := by
  refine ⟨Wildcard.tokens pattern.toList, fun ts => Wildcard.reads_iff, fun name => ?_⟩
  have ha : (Wildcard.Position.start (Wildcard.tokens pattern.toList) name.toList).Aligned :=
    fun r hr => nomatch hr
  rw [wildcardMatch, Wildcard.run_eq_true_iff ha]
  exact or_iff_left (by simp [Wildcard.Position.start])

/-- A class that begins with a bracket and ends with a hyphen, and a bracket that opens none; then a
range that holds nothing. -/
example : wildcardMatch "*.[!]a-]*[" "b.c.d[" = true ∧ wildcardMatch "[z-a]*" "m" = false := by
  cbv

end SuitePool
