import SuitePool.Json.Token
import SuitePool.Toml
import SuitePool.Toml.DateTime

/-!
# Values without brackets and quotes

Such a value is a truth value, a number, a date or a time.  What it starts with tells its kind:
`0x`, `0o` and `0b` open a whole number in another base; digits go on as a date or a time where a
hyphen or a colon follows them, as a number with a fraction or an exponent where a point or the
letter `e` follows anywhere, and as a whole number where nothing or an underscore follows.

The digits of a whole number in base ten behind its first underscore are not looked at here, nor
whether a base is followed by digits at all: such a number is a value, but nobody can use it.

## Main definitions

* `Toml.underscoresFit`: where underscores may stand.
* `Toml.wholeNumber?`, `Toml.isFloat`
* `Toml.scalar?`
-/

namespace SuitePool.Toml

open Decimal

/-! ## Underscores -/

/-- Does every underscore stand between digits, given what stands before it? -/
def underscoresFitAfter (isDigit : Char → Bool) (before : Bool) : List Char → Bool
  | [] => true
  | '_' :: cs => before && cs.head?.any isDigit && underscoresFitAfter isDigit false cs
  | c :: cs => underscoresFitAfter isDigit (isDigit c) cs

/-- **Does every underscore stand between digits?**  A sign at the start counts as a digit. -/
def underscoresFit (isDigit : Char → Bool) : List Char → Bool
  | '+' :: cs | '-' :: cs => underscoresFitAfter isDigit true cs
  | cs => underscoresFitAfter isDigit false cs

def withoutUnderscores (cs : List Char) : List Char := cs.filter (· != '_')

/-! ## Whole numbers -/

/-- Is the character a digit in a base up to sixteen? -/
def isDigitIn (base : Nat) (c : Char) : Bool := (hexValue? c).any (· < base)

/-- The number that some digits in a base denote, at least one. -/
def numberIn? (base : Nat) (cs : List Char) : Option Nat :=
  if cs.isEmpty || !cs.all (isDigitIn base) then none
  else some (cs.foldl (fun n c => n * base + (hexValue? c).getD 0) 0)

/-- The whole number that a sign and digits in base ten denote. -/
def wholeNumber? : List Char → Option Int
  | '+' :: cs => (numberIn? 10 cs).map Int.ofNat
  | '-' :: cs => (numberIn? 10 cs).map fun n => -(n : Int)
  | cs => (numberIn? 10 cs).map Int.ofNat

/-- A whole number in another base, written without a sign. -/
def basedNumber? (base : Nat) (cs : List Char) : Option Value :=
  if cs.all (fun c => c == '_' || isDigitIn base c) && underscoresFit (isDigitIn 16) cs then
    some (.integer ((numberIn? base (withoutUnderscores cs)).map Int.ofNat))
  else none

/-! ## Numbers with a fraction or an exponent -/

/-- Is the character a digit or an underscore? -/
def isDigitOrUnderscore (c : Char) : Bool := isDigit c || c == '_'

/-- Reads digits, at least one. -/
def readSomeDigits (cs : List Char) : Option (List Char × List Char) :=
  let ds := withoutUnderscores (cs.takeWhile isDigitOrUnderscore)
  if ds.isEmpty then none else some (ds, cs.dropWhile isDigitOrUnderscore)

/-- What follows an exponent, if there is one. -/
def readExponent (cs : List Char) : Option (List Char) :=
  match cs with
  | 'e' :: rest | 'E' :: rest =>
    match rest with
    | '+' :: rest | '-' :: rest => (readSomeDigits rest).map (·.2)
    | rest => (readSomeDigits rest).map (·.2)
  | rest => some rest

def readFractionPart (cs : List Char) : Option (List Char) :=
  match cs with
  | '.' :: rest => (readSomeDigits rest).map (·.2)
  | rest => some rest

/-- **Is the text a number with a fraction or an exponent?**  It has no sign, and its first digit
is a zero only if a single digit precedes the fraction. -/
def isFloat (cs : List Char) : Bool :=
  match readSomeDigits cs with
  | none => false
  | some (ds, rest) =>
    (ds.length == 1 || cs.head? != some '0')
      && ((readFractionPart rest).bind readExponent == some [])

/-! ## Scalars -/

/-- A number, a date or a time that starts with a digit behind its sign; `text` is `cs` with its
sign. -/
def numeral? (text cs : List Char) : Option Value :=
  let rest := cs.dropWhile isDigit
  let whole : Option Value :=
    if (cs.head? != some '0' || cs.length == 1) && underscoresFit (isDigitIn 16) text then
      some (.integer (wholeNumber? (withoutUnderscores text)))
    else none
  match rest with
  | [] => whole
  | '-' :: _ | ':' :: _ => if isDateTime text then some .dateTime else none
  | c :: _ =>
    if rest.contains ' ' then none
    else if rest.any fun c => c == '.' || c == 'e' || c == 'E' then
      if isFloat cs && underscoresFit isDigit text then some .float else none
    else if c = '_' then whole
    else none

/-- A number, a date or a time behind its sign, if it has one. -/
def signed? (text cs : List Char) : Option Value :=
  match cs with
  | ['i', 'n', 'f'] | ['n', 'a', 'n'] => some .float
  | c :: _ => if isDigitOrUnderscore c then numeral? text cs else none
  | [] => none

/-- **The value that a text without brackets and quotes denotes.** -/
def scalar? (text : List Char) : Option Value :=
  match text with
  | ['t', 'r', 'u', 'e'] => some (.boolean true)
  | ['f', 'a', 'l', 's', 'e'] => some (.boolean false)
  | '0' :: 'x' :: cs => basedNumber? 16 cs
  | '0' :: 'o' :: cs => basedNumber? 8 cs
  | '0' :: 'b' :: cs => basedNumber? 2 cs
  | '+' :: cs | '-' :: cs => signed? text cs
  | cs => signed? text cs

end SuitePool.Toml
