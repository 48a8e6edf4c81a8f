/-!
# Decimal digits

Whole numbers in decimal notation: writing, and reading a run of digits back.

## Main definitions

* `Decimal.digits`: the digits of a number, no leading zero.
* `Decimal.isDigit`, `Decimal.digitValue`: one digit.
* `Decimal.ofDigits`: the number that a run of digits denotes.
-/

namespace SuitePool.Decimal

/-- The character of a digit. -/
def digitChar (d : Nat) : Char := Char.ofNat (48 + d)

/-- Is the character one of `0` to `9`? -/
def isDigit (c : Char) : Bool := '0' ≤ c && c ≤ '9'

/-- The value of a digit. -/
def digitValue (c : Char) : Nat := c.toNat - 48

/-- The decimal digits of a number, most significant first. -/
def digits (n : Nat) : List Char :=
  if n < 10 then [digitChar n] else digits (n / 10) ++ [digitChar (n % 10)]
termination_by n
decreasing_by omega

/-- The number that a run of digits denotes. -/
def ofDigits (cs : List Char) : Nat := cs.foldl (fun n c => n * 10 + digitValue c) 0

def text (n : Nat) : String := String.ofList (digits n)

/-- A whole number as characters: a minus sign if it is negative, then its digits. -/
def intDigits : Int → List Char
  | .ofNat n => digits n
  | .negSucc n => '-' :: digits (n + 1)

end SuitePool.Decimal
