import Mathlib.Data.List.Basic
import Mathlib.Tactic.Common
import SuitePool.Json.Token

/-!
# Reading single JSON tokens back

A token that was written is the first token that is read, provided that a number is not followed by
characters that would go on with it.  Numbers have to be whole: what is written for a binary64
number is not looked at here.

## Main definitions

* `Number.IsWhole`, `Token.IsWhole`: whole numbers of 64 bits only.
* `Stops`: a text that does not go on with a number.

## Main results

* `Decimal.ofDigits_digits`: the digits of a number denote it.
* `lexString_escaped`: an escaped text is read back.
* `lex_text_append`: a written token is read back.
* `Token.le_of_mem_text`: no control character is written.
-/

namespace SuitePool

open Decimal

/-! ## Digits -/

namespace Decimal

theorem isDigit_digitChar {d : Nat} (h : d < 10) : isDigit (digitChar d) = true := by
  revert d
  decide

theorem digitValue_digitChar {d : Nat} (h : d < 10) : digitValue (digitChar d) = d := by
  revert d
  decide

theorem digits_of_lt {n : Nat} (h : n < 10) : digits n = [digitChar n] := by
  rw [digits, if_pos h]

theorem digits_of_le {n : Nat} (h : 10 ≤ n) :
    digits n = digits (n / 10) ++ [digitChar (n % 10)] := by
  rw [digits, if_neg (by omega)]

theorem digits_ne_nil (n : Nat) : digits n ≠ [] := by
  rcases Nat.lt_or_ge n 10 with h | h
  · simp [digits_of_lt h]
  · simp [digits_of_le h]

theorem isDigit_of_mem_digits (n : Nat) : ∀ c ∈ digits n, isDigit c = true := by
  -- Digits are written from the last one on, so the induction is along tenths.
  induction n using Nat.strongRecOn with
  | ind n ih =>
    intro c hc
    rcases Nat.lt_or_ge n 10 with h | h
    · rw [digits_of_lt h, List.mem_singleton] at hc
      exact hc ▸ isDigit_digitChar h
    · rw [digits_of_le h, List.mem_append, List.mem_singleton] at hc
      rcases hc with hc | rfl
      · exact ih (n / 10) (by omega) c hc
      · exact isDigit_digitChar (Nat.mod_lt _ (by omega))

theorem ofDigits_digits (n : Nat) : ofDigits (digits n) = n := by
  induction n using Nat.strongRecOn with
  | ind n ih =>
    rcases Nat.lt_or_ge n 10 with h | h
    · simp [digits_of_lt h, ofDigits, digitValue_digitChar h]
    · have hd := ih (n / 10) (by omega)
      simp only [ofDigits] at hd ⊢
      rw [digits_of_le h, List.foldl_append, hd]
      simp only [List.foldl_cons, List.foldl_nil]
      rw [digitValue_digitChar (Nat.mod_lt _ (by omega))]
      omega

theorem digitChar_ne_zero {d : Nat} (h : d < 10) : 0 < d → digitChar d ≠ '0' := by
  revert d
  decide

/-- No number is written with a leading zero but zero itself. -/
theorem tail_of_digits_zero {n : Nat} {ds : List Char} (h : digits n = '0' :: ds) : ds = [] := by
  -- The first digit of a positive number is that of a tenth of it, down to a single digit.
  have hpos : ∀ m, 0 < m → (digits m).head? ≠ some '0' := by
    intro m
    induction m using Nat.strongRecOn with
    | ind m ih =>
      intro hm
      rcases Nat.lt_or_ge m 10 with h10 | h10
      · rw [digits_of_lt h10]
        simpa using digitChar_ne_zero h10 hm
      · rw [digits_of_le h10, List.head?_append_of_ne_nil _ (digits_ne_nil _)]
        exact ih (m / 10) (by omega) (by omega)
  rcases Nat.eq_zero_or_pos n with rfl | hn
  · rw [digits_of_lt (by omega)] at h
    exact ((List.cons.inj h).2).symm
  · exact absurd (by rw [h]; rfl) (hpos n hn)

end Decimal

/-! ## Numbers -/

/-- Does a text not go on with a number? -/
def Stops (rest : List Char) : Prop :=
  ∀ c ∈ rest.head?, isDigit c = false ∧ c ≠ '.' ∧ c ≠ 'e' ∧ c ≠ 'E'

theorem stops_nil : Stops [] := by simp [Stops]

theorem takeWhile_isDigit_of_stops {rest : List Char} (h : Stops rest) :
    rest.takeWhile isDigit = [] := by
  cases rest with
  | nil => rfl
  | cons c cs => simp [(h c (by simp)).1]

theorem lexWhole?_digits (n : Nat) {rest : List Char} (h : Stops rest) :
    lexWhole? (digits n ++ rest) = some (digits n, rest) := by
  have ht : (digits n ++ rest).takeWhile isDigit = digits n := by
    rw [List.takeWhile_append_of_pos (isDigit_of_mem_digits n), takeWhile_isDigit_of_stops h,
      List.append_nil]
  have hd : (digits n ++ rest).dropWhile isDigit = rest := by
    have := List.takeWhile_append_dropWhile (p := isDigit) (l := digits n ++ rest)
    rw [ht] at this
    exact List.append_cancel_left this
  simp only [lexWhole?, ht, hd]
  split
  next he => exact absurd he (digits_ne_nil n)
  next he => exact absurd (tail_of_digits_zero he) (by simp)
  next => rfl

theorem lexUnsigned_digits (negative : Bool) (n : Nat) {rest : List Char} (h : Stops rest) :
    lexUnsigned negative (digits n ++ rest) =
      (wholeNumber? negative (digits n)).map fun m => (m, rest) := by
  -- Neither a fraction nor an exponent follows.
  have hf : lexFraction? rest = some (none, rest) := by
    cases rest with
    | nil => rfl
    | cons c cs =>
      have hc := (h c (by simp)).2.1
      simp only [lexFraction?]
      split
      next he => exact absurd (List.cons.inj he).1 hc
      next => rfl
  have he : lexExponent? rest = some (none, rest) := by
    cases rest with
    | nil => rfl
    | cons c cs =>
      obtain ⟨-, -, h₁, h₂⟩ := h c (by simp)
      simp only [lexExponent?]
      split
      next he => exact absurd (List.cons.inj he).1 h₁
      next he => exact absurd (List.cons.inj he).1 h₂
      next => rfl
  simp only [lexUnsigned, lexWhole?_digits n h, Option.bind_eq_bind, Option.bind_some, hf, he,
    readNumber?]
  cases wholeNumber? negative (digits n) <;> rfl

/-- Is the number whole, and of 64 bits with or without a sign? -/
def Number.IsWhole : Number → Prop
  | .int i => -(UInt64.size / 2 : Nat) ≤ i ∧ i < UInt64.size
  | .float _ => False

theorem lexNumber_text {n : Number} (hn : n.IsWhole) {rest : List Char} (h : Stops rest) :
    lexNumber (n.text ++ rest) = some (n, rest) := by
  cases n with
  | float x => exact hn.elim
  | int i =>
    obtain ⟨hlo, hhi⟩ := hn
    cases i with
    | ofNat n =>
      have hr : n ≤ greatestSignificand := by
        simp only [greatestSignificand, Int.ofNat_eq_natCast] at hhi ⊢
        omega
      have hw : wholeNumber? false (digits n) = some (.int n) := by
        simp [wholeNumber?, ofDigits_digits, hr]
      -- The reader looks for a sign first, and finds a digit.
      obtain ⟨d, ds, hd⟩ := List.exists_cons_of_ne_nil (digits_ne_nil n)
      have hdig : isDigit d = true := isDigit_of_mem_digits n d (by simp [hd])
      have hne : d ≠ '-' := by
        rintro rfl
        exact absurd hdig (by decide)
      have := lexUnsigned_digits false n h
      simp only [Number.text, intDigits, lexNumber]
      rw [hd] at this ⊢
      split
      next he => exact absurd (List.cons.inj he).1 hne
      next => rw [this, ← hd, hw]; rfl
    | negSucc n =>
      have hr : ¬ UInt64.size / 2 < n + 1 := by omega
      have hw : wholeNumber? true (digits (n + 1)) = some (.int (.negSucc n)) := by
        simp only [wholeNumber?, ofDigits_digits, if_true]
        rw [if_neg (by omega)]
        rfl
      simp only [Number.text, intDigits, List.cons_append, lexNumber]
      rw [lexUnsigned_digits true _ h, hw]
      rfl

/-! ## Texts -/

theorem hexValue?_hexDigit {n : Nat} (h : n < 16) : hexValue? (hexDigit n) = some n := by
  revert n
  decide

/-- Does a unit stand for the character? -/
def TextUnit.Denotes (c : Char) : TextUnit → Prop
  | .char d => d = c
  | .code n => n = c.toNat ∧ n < 0x20

theorem joinUnits_cons {c : Char} {u : TextUnit} (hu : u.Denotes c) (us : List TextUnit) :
    joinUnits (u :: us) = (joinUnits us).map (c :: ·) := by
  cases u with
  | char d => rw [show d = c from hu, joinUnits]
  | code n =>
    -- The code of a control character is no half of a surrogate pair.
    obtain ⟨rfl, hn⟩ := hu
    have hl : isLeadCode c.toNat = false := by simp [isLeadCode]; omega
    have ht : isTrailCode c.toNat = false := by simp [isTrailCode]; omega
    cases us with
    | nil => simp [joinUnits, hl, ht, Char.ofNat_toNat]
    | cons v vs => cases v <;> simp [joinUnits, hl, ht, Char.ofNat_toNat]

/-- How one character is read that was written inside a text. -/
theorem lexUnits_escapeChar (c : Char) (rest : List Char) :
    ∃ u : TextUnit, u.Denotes c ∧
      lexUnits (escapeChar c ++ rest) = (lexUnits rest).map fun p => (u :: p.1, p.2) := by
  simp only [escapeChar]
  split
  -- The characters without a short form: control characters are written as codes, others as
  -- themselves.
  case h_8 h₁ h₂ h₃ h₄ h₅ h₆ h₇ =>
    split_ifs with hc
    · refine ⟨.code c.toNat, ⟨rfl, hc⟩, ?_⟩
      have hh : hexCode? '0' '0' (hexDigit (c.toNat / 16)) (hexDigit (c.toNat % 16)) =
          some c.toNat := by
        simp only [hexCode?, hexValue?_hexDigit (show c.toNat / 16 < 16 by omega),
          hexValue?_hexDigit (show c.toNat % 16 < 16 by omega)]
        simp [hexValue?, isDigit, digitValue]
        omega
      simp only [List.cons_append, List.nil_append, lexUnits, hh]
      cases lexUnits rest <;> rfl
    · -- Quotes and backslashes have short forms, so this is neither.
      refine ⟨.char c, rfl, ?_⟩
      rw [List.singleton_append, lexUnits]
      · rw [if_neg hc]
        cases lexUnits rest <;> rfl
      · exact fun h => h₁ h
      · intros; exact h₂ ‹_›
      · intros; exact h₂ ‹_›
  all_goals
    refine ⟨.char _, rfl, ?_⟩
    simp [lexUnits, escaped?]
    cases lexUnits rest <;> rfl

theorem lexString_escaped (cs rest : List Char) :
    lexString (cs.flatMap escapeChar ++ '"' :: rest) = some (String.ofList cs, rest) := by
  have hu : ∃ us, lexUnits (cs.flatMap escapeChar ++ '"' :: rest) = some (us, rest) ∧
      joinUnits us = some cs := by
    induction cs with
    | nil => exact ⟨[], by simp [lexUnits], rfl⟩
    | cons c cs ih =>
      obtain ⟨us, hus, hj⟩ := ih
      obtain ⟨u, hu, he⟩ := lexUnits_escapeChar c (cs.flatMap escapeChar ++ '"' :: rest)
      refine ⟨u :: us, ?_, ?_⟩
      · rw [List.flatMap_cons, List.append_assoc, he, hus]
        rfl
      · rw [joinUnits_cons hu, hj]
        rfl
  obtain ⟨us, hus, hj⟩ := hu
  simp [lexString, hus, hj]

/-! ## Tokens -/

/-- Are all numbers of the token whole? -/
def Token.IsWhole : Token → Prop
  | .scalar (.number n) => n.IsWhole
  | _ => True

/-- A text that starts like a number is read as one. -/
theorem lexToken_number {c : Char} (hc : isDigit c = true ∨ c = '-') (cs : List Char) :
    lexToken c cs = (lexNumber (c :: cs)).map fun p => (.scalar (.number p.1), p.2) := by
  -- None of the characters that other tokens start with is a digit or a minus sign.
  have hne : ∀ d : Char, isDigit d = false → d ≠ '-' → c ≠ d := by
    rintro d hd hm rfl
    rcases hc with hc | hc
    · rw [hd] at hc
      cases hc
    · exact hm hc
  simp only [lexToken]
  split
  case h_11 => rfl
  all_goals exact absurd rfl (hne _ (by decide) (by decide))

theorem Number.text_head (n : Number) (hn : n.IsWhole) :
    ∃ c cs, n.text = c :: cs ∧ (isDigit c = true ∨ c = '-') := by
  cases n with
  | float x => exact hn.elim
  | int i =>
    cases i with
    | ofNat n =>
      obtain ⟨d, ds, hd⟩ := List.exists_cons_of_ne_nil (digits_ne_nil n)
      exact ⟨d, ds, hd, .inl (isDigit_of_mem_digits n d (by simp [hd]))⟩
    | negSucc n => exact ⟨'-', digits (n + 1), rfl, .inr rfl⟩

/-- **A written token is read back**, if what follows it does not go on with a number. -/
theorem lex_text_append {t : Token} (ht : t.IsWhole) {rest : List Char}
    (hr : ∀ n, t = .scalar (.number n) → Stops rest) :
    lex (t.text ++ rest) = (lex rest).map (t :: ·) := by
  -- It is enough that the token starts with no blank, and is read itself.
  have step : ∀ c cs, isJsonBlank c = false → lexToken c cs = some (t, rest) →
      lex (c :: cs) = (lex rest).map (t :: ·) := by
    intro c cs hb hl
    rw [lex, if_neg (by simp [hb])]
    split
    next h => rw [hl] at h; cases h
    next h => rw [hl] at h; cases h; rfl
  cases t with
  | scalar s =>
    cases s with
    | null => exact step _ _ (by decide) (by simp [lexToken, afterWord])
    | bool b => cases b <;> exact step _ _ (by decide) (by simp [lexToken, afterWord])
    | string s =>
      apply step '"' (s.toList.flatMap escapeChar ++ ['"'] ++ rest) (by decide)
      simp only [lexToken, List.append_assoc, List.singleton_append]
      rw [lexString_escaped]
      simp
    | number n =>
      obtain ⟨c, cs, hcs, hc⟩ := n.text_head ht
      have hl := lexNumber_text ht (hr n rfl)
      simp only [Token.text, Scalar.text]
      rw [hcs, List.cons_append] at hl ⊢
      refine step c _ ?_ (by rw [lexToken_number hc, hl]; rfl)
      -- No blank is a digit.
      rcases hc with hc | rfl
      · simp only [isDigit, Bool.and_eq_true, decide_eq_true_eq] at hc
        simp only [isJsonBlank, Bool.or_eq_false_iff, beq_eq_false_iff_ne]
        refine ⟨⟨⟨?_, ?_⟩, ?_⟩, ?_⟩ <;> rintro rfl <;> revert hc <;> decide
      · decide
  | openArray => exact step _ _ (by decide) rfl
  | closeArray => exact step _ _ (by decide) rfl
  | openObject => exact step _ _ (by decide) rfl
  | closeObject => exact step _ _ (by decide) rfl
  | comma => exact step _ _ (by decide) rfl
  | colon => exact step _ _ (by decide) rfl

/-! ## No control characters -/

theorem le_of_isDigit {c : Char} (hc : isDigit c = true) : 0x20 ≤ c.toNat := by
  simp only [isDigit, Bool.and_eq_true, decide_eq_true_eq, Char.le_def,
    UInt32.le_iff_toNat_le] at hc
  have h : ('0' : Char).val.toNat = 48 := rfl
  have : c.toNat = c.val.toNat := rfl
  omega

theorem le_of_mem_escapeChar {c d : Char} (hd : d ∈ escapeChar c) : 0x20 ≤ d.toNat := by
  have hex : ∀ n, n < 16 → 0x20 ≤ (hexDigit n).toNat := by decide
  simp only [escapeChar] at hd
  split at hd
  -- Control characters are written as codes, others without a short form as themselves.
  case h_8 =>
    split_ifs at hd with hc
    · simp only [List.mem_cons, List.not_mem_nil, or_false] at hd
      rcases hd with rfl | rfl | rfl | rfl | rfl | rfl
      · decide
      · decide
      · decide
      · decide
      · exact hex _ (by omega)
      · exact hex _ (by omega)
    · rw [List.mem_singleton] at hd
      subst hd
      omega
  all_goals
    simp only [List.mem_cons, List.not_mem_nil, or_false] at hd
    rcases hd with rfl | rfl <;> decide

theorem le_of_all {cs : List Char} (h : cs.all (fun c => 0x20 ≤ c.toNat) = true) {c : Char}
    (hc : c ∈ cs) : 0x20 ≤ c.toNat :=
  of_decide_eq_true (List.all_eq_true.1 h c hc)

/-- **No control character is written**, as far as numbers are whole. -/
theorem Token.le_of_mem_text {t : Token} (ht : t.IsWhole) {c : Char} (hc : c ∈ t.text) :
    0x20 ≤ c.toNat := by
  cases t with
  | scalar s =>
    cases s with
    | null => exact le_of_all (by decide) hc
    | bool b => cases b <;> exact le_of_all (by decide) hc
    | string s =>
      simp only [Token.text, Scalar.text, List.cons_append, List.mem_cons, List.mem_append,
        List.mem_flatMap, List.not_mem_nil, or_false] at hc
      rcases hc with rfl | ⟨d, -, hc⟩ | rfl
      · decide
      · exact le_of_mem_escapeChar hc
      · decide
    | number n =>
      cases n with
      | float x => exact ht.elim
      | int i =>
        cases i with
        | ofNat n => exact le_of_isDigit (isDigit_of_mem_digits n c hc)
        | negSucc n =>
          rcases List.mem_cons.1 hc with rfl | hc
          · decide
          · exact le_of_isDigit (isDigit_of_mem_digits _ c hc)
  | _ =>
    simp only [Token.text, List.mem_singleton] at hc
    subst hc
    decide

end SuitePool
