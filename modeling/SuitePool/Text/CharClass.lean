/-!
# Classes of characters

A class of characters is given by the code points at which membership changes, in increasing
order: a character belongs to the class iff an odd number of them are at or below it.  The tables
of the properties that the pool needs stand in the modules below this one; the property of being a
blank is short enough to stand here.

## Main definitions

* `CharClass`, `CharClass.contains`
* `CharClass.blank`: the property White_Space.
-/

namespace SuitePool.Text

/-- A class of characters, as the code points at which membership changes. -/
structure CharClass where
  changes : List Nat

namespace CharClass

/-- Does the code point `n` lie in a class with these changes, membership starting as `inside`? -/
def containsFrom (n : Nat) : List Nat → Bool → Bool
  | [], inside => inside
  | b :: bs, inside => if b ≤ n then containsFrom n bs (!inside) else inside

def contains (k : CharClass) (c : Char) : Bool := containsFrom c.toNat k.changes false

/-- Blanks: the Unicode property White_Space. -/
def blank : CharClass where
  changes := [
  0x9, 0xe, 0x20, 0x21, 0x85, 0x86, 0xa0, 0xa1, 0x1680, 0x1681, 0x2000, 0x200b, 0x2028, 0x202a,
  0x202f, 0x2030, 0x205f, 0x2060, 0x3000, 0x3001]

end CharClass

def isBlank (c : Char) : Bool := CharClass.blank.contains c

/-- The text without blanks at its two ends. -/
def trim (cs : List Char) : List Char :=
  ((cs.dropWhile isBlank).reverse.dropWhile isBlank).reverse

end SuitePool.Text
