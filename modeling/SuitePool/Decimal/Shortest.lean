import SuitePool.Decimal.Digits
import SuitePool.Decimal.Binary64

/-!
# Decimal text of binary64 numbers

`shortest` finds the fewest decimal digits that read back as a given number, and of those the ones
nearest to it.  A decimal reads back as the number iff it lies in the interval of values that round
to it, whose ends belong to it iff the mantissa is even.  Of each decimal grid only the two
neighbours of the number can be the nearest point of that interval, so for one digit, two digits,
and so on up to seventeen these two are tested in exact arithmetic.

`NumberFormat` holds the decisions that are not mathematics: where positional notation ends and how
an exponent is written.

## Main definitions

* `Numeral`: a whole number times a power of ten.
* `Shortest.interval`, `Shortest.candidates`, `shortest`
* `NumberFormat`, `NumberFormat.write`
* `fixed`: a number with a fixed number of decimal places.
-/

namespace SuitePool.Decimal

/-- The decimal `digits * 10 ^ exponent`. -/
structure Numeral where
  digits : Nat
  exponent : Int
  deriving DecidableEq, Repr

/-- A quotient times a power of ten, as a quotient. -/
def scaleTen (num den : Nat) : Int → Nat × Nat
  | .ofNat k => (num * Nat.pow 10 k, den)
  | .negSucc k => (num, den * Nat.pow 10 (k + 1))

namespace Shortest

/-- The ends of the interval of values that round to `x`, as multiples of `2 ^ (exponent - 2)`. -/
def interval (x : Magnitude) : Nat × Nat :=
  let below := if x.mantissa = leastNormal ∧ leastExponent < x.exponent then 1 else 2
  (4 * x.mantissa - below, 4 * x.mantissa + 2)

/-- Does the decimal `d * 10 ^ k` round to `x`? -/
def readsBack (x : Magnitude) (d : Nat) (k : Int) : Bool :=
  let (low, high) := interval x
  let (ln, ld) := scaleQuotient low 1 (x.exponent - 2)
  let (hn, hd) := scaleQuotient high 1 (x.exponent - 2)
  let (n, den) := scaleTen d 1 k
  if x.mantissa % 2 = 0 then ln * den ≤ n * ld && n * hd ≤ hn * den
  else ln * den < n * ld && n * hd < hn * den

/-- The greatest `k` with `10 ^ k ≤ num / den`, searched upwards from `k` for `fuel` steps. -/
def log10From (num den : Nat) (k : Int) : Nat → Int
  | 0 => k
  | fuel + 1 =>
    let (n, d) := scaleTen num den (-(k + 1))
    if d ≤ n then log10From num den (k + 1) fuel else k

/-- The greatest `k` with `10 ^ k ≤ num / den`, for positive `num` and `den`.  The binary logarithm
gives it up to two. -/
def log10 (num den : Nat) : Int :=
  log10From num den (Int.fdiv (log2Quotient num den * 30103) 100000 - 1) 3

/-- The neighbours of `x` among the multiples of `10 ^ k`, the nearer one first (the even one first
if they are equally near), as far as they read back as `x`. -/
def candidates (x : Magnitude) (k : Int) : List Nat :=
  let (a, b) := x.quotient
  let (n, d) := scaleTen a b (-k)
  let down := n / d
  let near := roundQuotient n d
  let far := if near = down then down + 1 else down
  [near, far].filter fun m => m ≠ 0 && readsBack x m k

/-- The first grid, from `count` digits on, with a multiple that reads back. -/
def search (x : Magnitude) (top : Int) : (count fuel : Nat) → Numeral
  | _, 0 => ⟨x.mantissa, 0⟩
  | count, fuel + 1 =>
    let k := top - (count : Int) + 1
    match candidates x k with
    | m :: _ => ⟨m, k⟩
    | [] => search x top (count + 1) fuel

end Shortest

/-- A decimal without zeros at its end. -/
def Numeral.trim (d : Numeral) : Numeral :=
  if h : d.digits ≠ 0 ∧ d.digits % 10 = 0 then Numeral.trim ⟨d.digits / 10, d.exponent + 1⟩ else d
termination_by d.digits
decreasing_by omega

/-- **The shortest decimal** that reads back as `x`, and of those the nearest to `x`. -/
def shortest (x : Magnitude) : Numeral :=
  if x.mantissa = 0 then ⟨0, 0⟩
  else
    let (a, b) := x.quotient
    (Shortest.search x (Shortest.log10 a b) 1 18).trim

/-- How numbers are written: positional notation is used for leading digits from `10 ^ least` to
`10 ^ greatest`, and any other number gets an exponent. -/
structure NumberFormat where
  least : Int
  greatest : Int

namespace NumberFormat

def zeros (n : Nat) : List Char := List.replicate n '0'

/-- A power of ten after its mark: always signed, with no more digits than it needs. -/
def writeExponent (k : Int) : List Char :=
  'e' :: (if k < 0 then '-' else '+') :: digits k.natAbs

/-- A non-negative number. -/
def writeMagnitude (f : NumberFormat) (x : Magnitude) : List Char :=
  let d := shortest x
  let ds := digits d.digits
  let top := d.exponent + (ds.length : Int) - 1
  if x.mantissa = 0 then ['0', '.', '0']
  else if f.least ≤ top ∧ top ≤ f.greatest then
    if 0 ≤ d.exponent then ds ++ zeros d.exponent.toNat ++ ['.', '0']
    else if 0 ≤ top then ds.take (top.toNat + 1) ++ '.' :: ds.drop (top.toNat + 1)
    else '0' :: '.' :: (zeros (-top - 1).toNat ++ ds)
  else
    match ds with
    | [] => []
    | c :: [] => c :: writeExponent top
    | c :: more => c :: '.' :: more ++ writeExponent top

/-- A number: a minus sign if it has one, then its magnitude. -/
def write (f : NumberFormat) (x : Binary64) : List Char :=
  if x.negative then '-' :: f.writeMagnitude x.magnitude else f.writeMagnitude x.magnitude

end NumberFormat

/-- A number with `places` decimal places, the exact value rounded with ties to even. -/
def fixed (places : Nat) (x : Magnitude) : List Char :=
  let (a, b) := x.quotient
  let n := roundQuotient (a * Nat.pow 10 places) b
  let ds := digits n
  let padded := NumberFormat.zeros (places + 1 - ds.length) ++ ds
  let whole := padded.length - places
  if places = 0 then padded else padded.take whole ++ '.' :: padded.drop whole

end SuitePool.Decimal
