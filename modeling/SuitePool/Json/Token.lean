import SuitePool.Json
import SuitePool.Decimal.Shortest

/-!
# JSON tokens

A JSON text is a sequence of tokens: six marks and the scalars.  `Token.text` writes a token, and
`lex` cuts a text into tokens, skipping the four blanks that JSON allows between them.  Everything
that is decided about the spelling of numbers and texts is decided here.

A number without fraction and exponent is whole if it fits 64 bits, with a sign for a negative one.
Every other number is read as binary64: its digits are gathered into a 64-bit significand, further
digits only counting for the power of ten, and the significand is multiplied with or divided by
that power.

## Main definitions

* `Token`, `Token.text`
* `lexNumber`, `lexString`, `lexToken`, `lex`

## Main results

* `lexToken_length`: a token leaves no more characters than it found.
-/

namespace SuitePool

open Decimal

/-- A JSON token. -/
inductive Token where
  | openArray
  | closeArray
  | openObject
  | closeObject
  | comma
  | colon
  | scalar (s : Scalar)
  deriving DecidableEq

/-! ## Writing -/

/-- The notation of binary64 numbers in JSON: leading digits from `10 ^ -5` to `10 ^ 15` are
written positionally. -/
def Number.style : NumberFormat where
  least := -5
  greatest := 15

def Number.text : Number → List Char
  | .int i => intDigits i
  | .float x => Number.style.write x

/-- The hexadecimal digit of a number below sixteen. -/
def hexDigit (n : Nat) : Char := if n < 10 then Char.ofNat (48 + n) else Char.ofNat (87 + n)

/-- A character inside a JSON text.  Quotation marks, backslashes and control characters are
escaped, all other characters stand for themselves. -/
def escapeChar (c : Char) : List Char :=
  match c with
  | '"' => ['\\', '"']
  | '\\' => ['\\', '\\']
  | '\n' => ['\\', 'n']
  | '\r' => ['\\', 'r']
  | '\t' => ['\\', 't']
  | '\x08' => ['\\', 'b']
  | '\x0c' => ['\\', 'f']
  | c =>
    if c.toNat < 0x20 then
      ['\\', 'u', '0', '0', hexDigit (c.toNat / 16), hexDigit (c.toNat % 16)]
    else [c]

def Scalar.text : Scalar → List Char
  | .null => ['n', 'u', 'l', 'l']
  | .bool true => ['t', 'r', 'u', 'e']
  | .bool false => ['f', 'a', 'l', 's', 'e']
  | .number n => n.text
  | .string s => '"' :: s.toList.flatMap escapeChar ++ ['"']

def Token.text : Token → List Char
  | .openArray => ['[']
  | .closeArray => [']']
  | .openObject => ['\x7b']
  | .closeObject => ['\x7d']
  | .comma => [',']
  | .colon => [':']
  | .scalar s => s.text

/-! ## Reading numbers -/

/-- The greatest significand. -/
def greatestSignificand : Nat := UInt64.size - 1

/-- Adds the digits before the point to a significand; the second part counts the digits that no
longer fit. -/
def gatherWhole : List Char → Nat × Nat → Nat × Nat
  | [], acc => acc
  | c :: cs, (significand, skipped) =>
    if skipped = 0 ∧ significand * 10 + digitValue c ≤ greatestSignificand then
      gatherWhole cs (significand * 10 + digitValue c, 0)
    else gatherWhole cs (significand, skipped + 1)

/-- Adds the digits after the point to a significand, up to the first that no longer fits; the
second part counts the digits added. -/
def gatherFraction : List Char → Nat × Nat → Nat × Nat
  | [], acc => acc
  | c :: cs, (significand, added) =>
    if significand * 10 + digitValue c ≤ greatestSignificand then
      gatherFraction cs (significand * 10 + digitValue c, added + 1)
    else (significand, added)

/-- The power of ten with exponent `k`, at most 308. -/
def powerOfTen? (k : Nat) : Option Magnitude := Magnitude.nearest? (Nat.pow 10 k) 1

/-- Divides by `10 ^ k`, in steps of at most 308. -/
def divideByTen? (x : Magnitude) (k : Nat) : Option Magnitude :=
  if k ≤ 308 then do x.div? (← powerOfTen? k)
  else if x.mantissa = 0 then some x
  else do
    let y ← x.div? (← powerOfTen? 308)
    divideByTen? y (k - 308)
termination_by k
decreasing_by omega

/-- The number `significand * 10 ^ exponent`, as far as the steps taken are exact; nothing above the
range of the format. -/
def scaleSignificand? (significand : Nat) (exponent : Int) : Option Magnitude := do
  let x ← Magnitude.nearest? significand 1
  if 0 ≤ exponent then
    if exponent ≤ 308 then x.mul? (← powerOfTen? exponent.toNat)
    else if x.mantissa = 0 then some x
    else none
  else divideByTen? x exponent.natAbs

/-- The number with these digits before the point, after it, and this exponent. -/
def floatNumber? (negative : Bool) (whole fraction : List Char) (exponent : Int) :
    Option Number := do
  let (s, skipped) := gatherWhole whole (0, 0)
  let (s, added) := gatherFraction fraction (s, 0)
  let x ← scaleSignificand? s ((skipped : Int) - added + exponent)
  some (.float ⟨negative, x⟩)

/-- The number with these digits and neither fraction nor exponent. -/
def wholeNumber? (negative : Bool) (whole : List Char) : Option Number :=
  let n := ofDigits whole
  if negative then
    if n = 0 ∨ UInt64.size / 2 < n then floatNumber? true whole [] 0 else some (.int (-(n : Int)))
  else if n ≤ greatestSignificand then some (.int n)
  else floatNumber? false whole [] 0

/-- The number with these digits before the point, and the fraction and exponent it has. -/
def readNumber? (negative : Bool) (whole : List Char) :
    Option (List Char) → Option Int → Option Number
  | none, none => wholeNumber? negative whole
  | fraction, exponent =>
    floatNumber? negative whole (fraction.getD []) (exponent.getD 0)

/-- The sign that an exponent may have: is it a minus sign, and what follows it? -/
def exponentSign : List Char → Bool × List Char
  | '+' :: rest => (false, rest)
  | '-' :: rest => (true, rest)
  | cs => (false, cs)

/-- Reads an exponent after its mark: its value and the characters after it. -/
def lexExponent (cs : List Char) : Option (Int × List Char) :=
  let (negative, cs) := exponentSign cs
  let k : Int := ofDigits (cs.takeWhile isDigit)
  if cs.takeWhile isDigit = [] then none
  else some (if negative then -k else k, cs.dropWhile isDigit)

/-- Reads an exponent if there is one. -/
def lexExponent? (cs : List Char) : Option (Option Int × List Char) :=
  match cs with
  | 'e' :: rest | 'E' :: rest => (lexExponent rest).map fun p => (some p.1, p.2)
  | _ => some (none, cs)

/-- Reads a fraction if there is one: its digits, of which there is at least one. -/
def lexFraction? (cs : List Char) : Option (Option (List Char) × List Char) :=
  match cs with
  | '.' :: rest =>
    if rest.takeWhile isDigit = [] then none
    else some (some (rest.takeWhile isDigit), rest.dropWhile isDigit)
  | _ => some (none, cs)

/-- Reads the digits before the point, of which there is at least one.  A leading zero stands
alone. -/
def lexWhole? (cs : List Char) : Option (List Char × List Char) :=
  match cs.takeWhile isDigit with
  | [] | '0' :: _ :: _ => none
  | whole => some (whole, cs.dropWhile isDigit)

/-- Reads a number without its minus sign. -/
def lexUnsigned (negative : Bool) (cs : List Char) : Option (Number × List Char) := do
  let (whole, cs) ← lexWhole? cs
  let (fraction, cs) ← lexFraction? cs
  let (exponent, cs) ← lexExponent? cs
  let n ← readNumber? negative whole fraction exponent
  some (n, cs)

/-- Reads a number. -/
def lexNumber (cs : List Char) : Option (Number × List Char) :=
  match cs with
  | '-' :: rest => lexUnsigned true rest
  | _ => lexUnsigned false cs

/-! ## Reading texts -/

/-- What stands between quotation marks: characters, and 16-bit codes written as four digits. -/
inductive TextUnit where
  | char (c : Char)
  /-- A code of four hexadecimal digits. -/
  | code (n : Nat)

/-- The value of a hexadecimal digit. -/
def hexValue? (c : Char) : Option Nat :=
  if isDigit c then some (digitValue c)
  else if 'a' ≤ c ∧ c ≤ 'f' then some (c.toNat - 87)
  else if 'A' ≤ c ∧ c ≤ 'F' then some (c.toNat - 55)
  else none

/-- The code that four hexadecimal digits denote. -/
def hexCode? (a b c d : Char) : Option Nat := do
  let a ← hexValue? a
  let b ← hexValue? b
  let c ← hexValue? c
  let d ← hexValue? d
  some (((a * 16 + b) * 16 + c) * 16 + d)

/-- The character that a backslash and a letter stand for. -/
def escaped? : Char → Option Char
  | '"' => some '"'
  | '\\' => some '\\'
  | '/' => some '/'
  | 'b' => some '\x08'
  | 'f' => some '\x0c'
  | 'n' => some '\n'
  | 'r' => some '\r'
  | 't' => some '\t'
  | _ => none

/-- Reads up to the closing quotation mark. -/
def lexUnits : List Char → Option (List TextUnit × List Char)
  | [] => none
  | '"' :: rest => some ([], rest)
  | '\\' :: 'u' :: a :: b :: c :: d :: rest => do
    let n ← hexCode? a b c d
    let (us, rest) ← lexUnits rest
    some (.code n :: us, rest)
  | '\\' :: e :: rest => do
    let c ← escaped? e
    let (us, rest) ← lexUnits rest
    some (.char c :: us, rest)
  | c :: rest =>
    if c.toNat < 0x20 then none
    else do
      let (us, rest) ← lexUnits rest
      some (.char c :: us, rest)

/-- Is the code the first of a pair? -/
def isLeadCode (n : Nat) : Bool := 0xD800 ≤ n && n < 0xDC00

/-- Is the code the second of a pair? -/
def isTrailCode (n : Nat) : Bool := 0xDC00 ≤ n && n < 0xE000

/-- The characters of a text.  Codes above U+FFFF come in pairs; half a pair is refused. -/
def joinUnits : List TextUnit → Option (List Char)
  | [] => some []
  | .char c :: us => (joinUnits us).map (c :: ·)
  | .code n :: .code m :: us =>
    if isLeadCode n then
      if isTrailCode m then
        (joinUnits us).map (Char.ofNat (0x10000 + (n - 0xD800) * 0x400 + (m - 0xDC00)) :: ·)
      else none
    else if isTrailCode n then none
    else (joinUnits (.code m :: us)).map (Char.ofNat n :: ·)
  | .code n :: us =>
    if isLeadCode n || isTrailCode n then none else (joinUnits us).map (Char.ofNat n :: ·)

def lexString (cs : List Char) : Option (String × List Char) := do
  let (us, rest) ← lexUnits cs
  let s ← joinUnits us
  some (String.ofList s, rest)

/-! ## Reading tokens -/

/-- Is the character a blank between tokens? -/
def isJsonBlank (c : Char) : Bool := c == ' ' || c == '\n' || c == '\t' || c == '\r'

/-- What follows a word, if the text starts with that word. -/
def afterWord : (word cs : List Char) → Option (List Char)
  | [], cs => some cs
  | _ :: _, [] => none
  | w :: ws, c :: cs => if w = c then afterWord ws cs else none

/-- Reads the token that starts with `c`. -/
def lexToken (c : Char) (cs : List Char) : Option (Token × List Char) :=
  match c with
  | '[' => some (.openArray, cs)
  | ']' => some (.closeArray, cs)
  | '\x7b' => some (.openObject, cs)
  | '\x7d' => some (.closeObject, cs)
  | ',' => some (.comma, cs)
  | ':' => some (.colon, cs)
  | '"' => (lexString cs).map fun p => (.scalar (.string p.1), p.2)
  | 'n' => (afterWord ['u', 'l', 'l'] cs).map fun rest => (.scalar .null, rest)
  | 't' => (afterWord ['r', 'u', 'e'] cs).map fun rest => (.scalar (.bool true), rest)
  | 'f' => (afterWord ['a', 'l', 's', 'e'] cs).map fun rest => (.scalar (.bool false), rest)
  | c => (lexNumber (c :: cs)).map fun p => (.scalar (.number p.1), p.2)

/-! ## What a token leaves -/

theorem afterWord_length {word cs rest : List Char} (h : afterWord word cs = some rest) :
    rest.length ≤ cs.length := by
  induction word generalizing cs with
  | nil => simp only [afterWord, Option.some.injEq] at h; simp [h]
  | cons w ws ih =>
    cases cs with
    | nil => simp [afterWord] at h
    | cons c cs =>
      simp only [afterWord] at h
      split at h
      · have := ih h
        simp only [List.length_cons]
        omega
      · simp at h

theorem lexUnits_length {cs rest : List Char} {us : List TextUnit}
    (h : lexUnits cs = some (us, rest)) : rest.length ≤ cs.length := by
  fun_induction lexUnits cs generalizing us rest with
  | case1 => simp at h
  | case2 cs => simp_all
  | case3 a b c d cs ih =>
    simp only [Option.bind_eq_bind, Option.bind_eq_some_iff, Option.some.injEq,
      Prod.mk.injEq, Prod.exists] at h
    obtain ⟨_, _, us', rest', h, -, rfl⟩ := h
    have := ih h
    simp only [List.length_cons]
    omega
  | case4 e cs _ ih =>
    simp only [Option.bind_eq_bind, Option.bind_eq_some_iff, Option.some.injEq,
      Prod.mk.injEq, Prod.exists] at h
    obtain ⟨_, _, us', rest', h, -, rfl⟩ := h
    have := ih h
    simp only [List.length_cons]
    omega
  | case5 => simp at h
  | case6 c cs _ _ _ _ ih =>
    simp only [Option.bind_eq_bind, Option.bind_eq_some_iff, Option.some.injEq,
      Prod.mk.injEq, Prod.exists] at h
    obtain ⟨us', rest', h, -, rfl⟩ := h
    have := ih h
    simp only [List.length_cons]
    omega

theorem lexString_length {cs rest : List Char} {s : String}
    (h : lexString cs = some (s, rest)) : rest.length ≤ cs.length := by
  simp only [lexString, Option.bind_eq_bind, Option.bind_eq_some_iff, Option.some.injEq,
    Prod.mk.injEq, Prod.exists] at h
  obtain ⟨_, _, hu, _, _, -, rfl⟩ := h
  exact lexUnits_length hu

theorem dropWhile_length (p : Char → Bool) (cs : List Char) :
    (cs.dropWhile p).length ≤ cs.length := (List.dropWhile_suffix p).length_le

theorem lexFraction?_length {cs rest : List Char} {f : Option (List Char)}
    (h : lexFraction? cs = some (f, rest)) : rest.length ≤ cs.length := by
  simp only [lexFraction?] at h
  split at h
  · rename_i cs
    split at h
    · simp at h
    · simp only [Option.some.injEq, Prod.mk.injEq] at h
      obtain ⟨-, rfl⟩ := h
      have := dropWhile_length isDigit cs
      simp only [List.length_cons]
      omega
  · simp only [Option.some.injEq, Prod.mk.injEq] at h
    simp [h.2]

theorem exponentSign_length (cs : List Char) : (exponentSign cs).2.length ≤ cs.length := by
  simp only [exponentSign]
  split <;> simp

theorem lexExponent_length {cs rest : List Char} {k : Int}
    (h : lexExponent cs = some (k, rest)) : rest.length ≤ cs.length := by
  simp only [lexExponent] at h
  split at h
  · simp at h
  · simp only [Option.some.injEq, Prod.mk.injEq] at h
    obtain ⟨-, rfl⟩ := h
    exact Nat.le_trans (dropWhile_length _ _) (exponentSign_length cs)

theorem lexExponent?_length {cs rest : List Char} {k : Option Int}
    (h : lexExponent? cs = some (k, rest)) : rest.length ≤ cs.length := by
  simp only [lexExponent?] at h
  split at h
  · simp only [Option.map_eq_some_iff, Prod.mk.injEq, Prod.exists] at h
    obtain ⟨_, _, h, -, rfl⟩ := h
    have := lexExponent_length h
    simp only [List.length_cons]
    omega
  · simp only [Option.map_eq_some_iff, Prod.mk.injEq, Prod.exists] at h
    obtain ⟨_, _, h, -, rfl⟩ := h
    have := lexExponent_length h
    simp only [List.length_cons]
    omega
  · simp only [Option.some.injEq, Prod.mk.injEq] at h
    simp [h.2]

/-- The digits before the point take at least one character. -/
theorem lexWhole?_length {cs rest whole : List Char}
    (h : lexWhole? cs = some (whole, rest)) : rest.length < cs.length := by
  simp only [lexWhole?] at h
  split at h
  · simp at h
  · simp at h
  · rename_i hnil _
    simp only [Option.some.injEq, Prod.mk.injEq] at h
    cases cs with
    | nil => exact absurd rfl hnil
    | cons c cs =>
      by_cases hc : isDigit c
      · have := dropWhile_length isDigit cs
        simp only [List.dropWhile_cons, hc, if_true] at h
        rw [← h.2, List.length_cons]
        omega
      · exact absurd (by simp [hc]) hnil

theorem lexUnsigned_length {negative : Bool} {cs rest : List Char} {n : Number}
    (h : lexUnsigned negative cs = some (n, rest)) : rest.length < cs.length := by
  simp only [lexUnsigned, Option.bind_eq_bind, Option.bind_eq_some_iff, Option.some.injEq,
    Prod.mk.injEq, Prod.exists] at h
  obtain ⟨_, cs₀, hw, f, cs₁, hf, e, cs₂, he, n', -, -, rfl⟩ := h
  have h₀ := lexWhole?_length hw
  have h₁ := lexFraction?_length hf
  have h₂ := lexExponent?_length he
  omega

/-- A number takes at least one character. -/
theorem lexNumber_length {cs rest : List Char} {n : Number}
    (h : lexNumber cs = some (n, rest)) : rest.length < cs.length := by
  simp only [lexNumber] at h
  split at h
  · have := lexUnsigned_length h
    simp only [List.length_cons]
    omega
  · exact lexUnsigned_length h

/-- A token leaves no more characters than follow its first one. -/
theorem lexToken_length {c : Char} {cs rest : List Char} {t : Token}
    (h : lexToken c cs = some (t, rest)) : rest.length ≤ cs.length := by
  simp only [lexToken] at h
  split at h
  all_goals
    try (simp only [Option.some.injEq, Prod.mk.injEq] at h; simp [h.2])
  all_goals
    simp only [Option.map_eq_some_iff, Prod.mk.injEq, Prod.exists] at h
  · obtain ⟨_, _, h, -, rfl⟩ := h
    exact lexString_length h
  · obtain ⟨_, h, -, rfl⟩ := h
    exact afterWord_length h
  · obtain ⟨_, h, -, rfl⟩ := h
    exact afterWord_length h
  · obtain ⟨_, h, -, rfl⟩ := h
    exact afterWord_length h
  · obtain ⟨_, _, h, -, rfl⟩ := h
    have := lexNumber_length h
    simp only [List.length_cons] at this
    omega

/-! ## Reading a text -/

/-- **The tokens of a text**, blanks between them left out. -/
def lex : List Char → Option (List Token)
  | [] => some []
  | c :: cs =>
    if isJsonBlank c then lex cs
    else
      match _h : lexToken c cs with
      | none => none
      | some (t, rest) => (lex rest).map (t :: ·)
termination_by cs => cs.length
decreasing_by
  · simp
  · have := lexToken_length _h
    simp only [List.length_cons]
    omega

end SuitePool
