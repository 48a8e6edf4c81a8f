/-!
# Binary64 numbers

The finite numbers of the 64-bit binary format, as exact values `mantissa * 2 ^ exponent`, and the
one operation everything else is built from: the number of the format nearest to a quotient of
natural numbers, a tie going to the even mantissa.  Products, quotients and sums are the nearest
numbers to the exact results, so each of them is one such rounding.

A sign is kept beside the magnitude; the format has two zeros.

## Main definitions

* `Magnitude`: a non-negative number of the format.
* `roundQuotient`: a quotient rounded to a natural number, ties to even.
* `Magnitude.nearest?`: a quotient rounded to the format, `none` above its range.
* `Magnitude.mul?`, `Magnitude.div?`, `Magnitude.add?`
* `Binary64`: a number with its sign.
-/

namespace SuitePool.Decimal

/-- A non-negative number `mantissa * 2 ^ exponent`. -/
structure Magnitude where
  /-- Less than `2 ^ 53`; at least `2 ^ 52` unless the exponent is the least one. -/
  mantissa : Nat
  /-- From `-1074` to `971`. -/
  exponent : Int
  deriving DecidableEq, Repr

/-- The quotient `num / den` rounded to a natural number, a tie going to the even one. -/
def roundQuotient (num den : Nat) : Nat :=
  let q := num / den
  let r := num % den
  if 2 * r < den then q
  else if den < 2 * r then q + 1
  else q + q % 2

/-- The least mantissa that uses all digits of the format, `2 ^ 52`. -/
def leastNormal : Nat := Nat.pow 2 52

/-- The exponent of the format's least spacing. -/
def leastExponent : Int := -1074

/-- The greatest exponent of the format. -/
def greatestExponent : Int := 971

/-- A quotient times a power of two, as a quotient. -/
def scaleQuotient (num den : Nat) : Int → Nat × Nat
  | .ofNat k => (num * Nat.pow 2 k, den)
  | .negSucc k => (num, den * Nat.pow 2 (k + 1))

/-- The greatest `k` with `2 ^ k ≤ num / den`, for positive `num` and `den`. -/
def log2Quotient (num den : Nat) : Int :=
  let k : Int := (num.log2 : Int) - den.log2
  let (n, d) := scaleQuotient num den (-k)
  if d ≤ n then k else k - 1

namespace Magnitude

def zero : Magnitude := ⟨0, leastExponent⟩

/-- The number of the format nearest to `num / den`, a tie going to the even mantissa; nothing if
that number lies above the format's range. -/
def nearest? (num den : Nat) : Option Magnitude :=
  if num = 0 then some zero
  else
    let e := max leastExponent (log2Quotient num den - 52)
    let (n, d) := scaleQuotient num den (-e)
    let m := roundQuotient n d
    -- Rounding up may need one more binary digit.
    let rounded : Magnitude := if m = 2 * leastNormal then ⟨leastNormal, e + 1⟩ else ⟨m, e⟩
    if rounded.exponent ≤ greatestExponent then some rounded else none

/-- The exact value, as a quotient. -/
def quotient (x : Magnitude) : Nat × Nat := scaleQuotient x.mantissa 1 x.exponent

def mul? (x y : Magnitude) : Option Magnitude :=
  let (a, b) := x.quotient
  let (c, d) := y.quotient
  nearest? (a * c) (b * d)

def div? (x y : Magnitude) : Option Magnitude :=
  let (a, b) := x.quotient
  let (c, d) := y.quotient
  nearest? (a * d) (b * c)

def add? (x y : Magnitude) : Option Magnitude :=
  let (a, b) := x.quotient
  let (c, d) := y.quotient
  nearest? (a * d + c * b) (b * d)

end Magnitude

/-- A finite number of the format. -/
structure Binary64 where
  negative : Bool
  /-- The number without its sign. -/
  magnitude : Magnitude
  deriving DecidableEq, Repr

end SuitePool.Decimal
