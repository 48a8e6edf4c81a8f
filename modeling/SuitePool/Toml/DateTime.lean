import SuitePool.Decimal.Digits

/-!
# Dates and times

A date is a year of four digits, a month and a day; a time is an hour, a minute and, if wanted, a
second with a fraction.  A date may be followed by a time, and a time behind a date by its distance
from universal time.  Only what exists in the calendar and on the clock is accepted; a minute may
have a leap second.

## Main definitions

* `Toml.daysOfMonth`
* `Toml.readDate`, `Toml.readTime`, `Toml.readOffset`
* `Toml.isDateTime`
-/

namespace SuitePool.Toml

open Decimal

/-- Does the year have a leap day? -/
def isLeapYear (year : Nat) : Bool := year % 4 == 0 && (year % 100 != 0 || year % 400 == 0)

/-- The number of days of a month. -/
def daysOfMonth (year month : Nat) : Nat :=
  match month with
  | 2 => if isLeapYear year then 29 else 28
  | 4 | 6 | 9 | 11 => 30
  | _ => 31

/-- Reads a run of digits that has a given length. -/
def readDigits (count : Nat) (cs : List Char) : Option (Nat × List Char) :=
  let ds := cs.takeWhile isDigit
  if ds.length = count then some (ofDigits ds, cs.dropWhile isDigit) else none

def readMark (marks : List Char) : List Char → Option (Char × List Char)
  | c :: cs => if c ∈ marks then some (c, cs) else none
  | [] => none

/-- Reads two digits that are at most `greatest`. -/
def readUpTo (greatest : Nat) (cs : List Char) : Option (Nat × List Char) := do
  let (n, rest) ← readDigits 2 cs
  if n ≤ greatest then some (n, rest) else none

def readDate (cs : List Char) : Option (List Char) := do
  let (year, cs) ← readDigits 4 cs
  let (_, cs) ← readMark ['-'] cs
  let (month, cs) ← readUpTo 12 cs
  let (_, cs) ← readMark ['-'] cs
  let (day, rest) ← readUpTo (daysOfMonth year month) cs
  if month = 0 ∨ day = 0 then none else some rest

/-- What follows a fraction of a second, if there is one. -/
def readFraction : List Char → Option (List Char)
  | '.' :: cs => if cs.takeWhile isDigit = [] then none else some (cs.dropWhile isDigit)
  | cs => some cs

def readTime (cs : List Char) : Option (List Char) := do
  let (_, cs) ← readUpTo 23 cs
  let (_, cs) ← readMark [':'] cs
  let (_, cs) ← readUpTo 59 cs
  match cs with
  | ':' :: cs =>
    -- The sixtieth second is a leap second.
    let (_, cs) ← readUpTo 60 cs
    readFraction cs
  | cs => some cs

/-- What follows the distance from universal time, if there is one. -/
def readOffset (cs : List Char) : Option (List Char) :=
  match cs with
  | 'Z' :: rest | 'z' :: rest => some rest
  | '+' :: rest | '-' :: rest => do
    let (_, rest) ← readUpTo 23 rest
    let (_, rest) ← readMark [':'] rest
    let (_, rest) ← readUpTo 59 rest
    some rest
  | rest => some rest

/-- What follows a time behind a date, if there is one. -/
def readTimeOfDate : List Char → Option (List Char)
  | [] => some []
  | cs => do
    let (_, cs) ← readMark ['T', 't', ' '] cs
    readOffset (← readTime cs)

/-- **Is the text a date, a time, or both?** -/
def isDateTime (cs : List Char) : Bool :=
  (readDate cs).bind readTimeOfDate == some [] || readTime cs == some []

end SuitePool.Toml
