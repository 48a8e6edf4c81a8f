import SuitePool.Text.Split

/-!
# Test ids

A test id is a dotted text `module.Suite.method` that names one runnable case.  The module part may
hold dots itself, so an id is read from its end: the method is what follows the last dot, and what
precedes it is the path of the suite.

Ids arrive from other processes without being checked; `TestId.parse?` is the check.

## Main definitions

* `isIdentifier`: a letter or underscore, then letters, digits and underscores, of ASCII.
* `TestId`, `TestId.ofParts`, `TestId.parse?`
* `TestId.suitePath?`, `TestId.method?`
-/

namespace SuitePool

open Text

/-! ## Identifiers -/

/-- An ASCII letter or an underscore. -/
def isIdentifierStart (c : Char) : Bool :=
  ('a' ≤ c && c ≤ 'z') || ('A' ≤ c && c ≤ 'Z') || c == '_'

/-- An ASCII letter, an ASCII digit or an underscore. -/
def isIdentifierPart (c : Char) : Bool := isIdentifierStart c || ('0' ≤ c && c ≤ '9')

/-- Is the text a legal identifier? -/
def isIdentifier : List Char → Bool
  | [] => false
  | c :: cs => isIdentifierStart c && cs.all isIdentifierPart

/-- The two parts of a dotted text around its last dot. -/
def splitAtLastDot (s : String) : Option (String × String) :=
  (splitLast '.' s.toList).map fun p => (String.ofList p.1, String.ofList p.2)

/-! ## Ids -/

/-- The name of one runnable case. -/
structure TestId where
  text : String
  deriving DecidableEq

namespace TestId

/-- The id of a method of a suite of a module. -/
def ofParts (module suite method : String) : TestId :=
  ⟨module ++ "." ++ suite ++ "." ++ method⟩

/-- Everything before the last dot: the path of the suite. -/
def suitePath? (id : TestId) : Option String := (splitAtLastDot id.text).map (·.1)

/-- The method, after the last dot. -/
def method? (id : TestId) : Option String := (splitAtLastDot id.text).map (·.2)

/-- **The check of an id**: at least three identifiers, joined by dots. -/
def parse? (s : String) : Option TestId :=
  let names := parts '.' s.toList
  if 3 ≤ names.length ∧ names.all isIdentifier then some ⟨s⟩ else none

/-- Puts an id into a list of increasing ids, unless it is there already. -/
def insertSorted (id : TestId) : List TestId → List TestId
  | [] => [id]
  | other :: rest =>
    if id.text < other.text then id :: other :: rest
    else if id = other then other :: rest
    else other :: insertSorted id rest

/-- Ids in increasing order of their text, each once. -/
def sorted (ids : List TestId) : List TestId := ids.foldr insertSorted []

end TestId

end SuitePool
