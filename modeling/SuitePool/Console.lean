import SuitePool.Decimal.Shortest
import SuitePool.Locale
import SuitePool.Text.Line

/-!
# The report on the console

A report is printed as one line of summary.  If there are problems, a heading with their number
follows, and then one block for each: a numbered line with the reason and the id, and the lines of
the message, indented.  Rules of dashes enclose the blocks.

## Main definitions

* `Style`, `Style.paint`
* `printReport`
-/

namespace SuitePool

open Text Decimal

/-! ## Colours -/

/-- A colour of the console. -/
inductive Style where
  | green
  | yellow
  | cyan
  | red
  | boldGreen
  | boldRed
  deriving DecidableEq

namespace Style

def code : Style → String
  | green => "32"
  | yellow => "33"
  | cyan => "36"
  | red => "31"
  | boldGreen => "1;32"
  | boldRed => "1;31"

/-- What switches a style on. -/
def switchOn (s : Style) : List Char := '\x1b' :: '[' :: s.code.toList ++ ['m']

/-- What switches every style off. -/
def switchOff : List Char := ['\x1b', '[', '0', 'm']

/-- A text in which `more` follows every place that switches styles off. -/
def renew (more : List Char) : List Char → List Char
  | '\x1b' :: '[' :: '0' :: 'm' :: cs => switchOff ++ more ++ renew more cs
  | c :: cs => c :: renew more cs
  | [] => []

/-- A text in a style, if colours are wanted. -/
def paint (colours : Bool) (s : Style) (text : String) : String :=
  if colours then String.ofList (s.switchOn ++ renew s.switchOn text.toList ++ switchOff)
  else text

end Style

/-! ## The parts of a report -/

def nanosecondsPerSecond : Nat := 1000000000

/-- A duration in seconds, as a binary64 number. -/
def seconds? (nanoseconds : Nat) : Option Magnitude := do
  let whole ← Magnitude.nearest? (nanoseconds / nanosecondsPerSecond) 1
  let part ← Magnitude.nearest? (nanoseconds % nanosecondsPerSecond) nanosecondsPerSecond
  whole.add? part

/-- A duration in seconds, with two decimal places. -/
def secondsText (nanoseconds : Nat) : String :=
  match seconds? nanoseconds with
  | some x => String.ofList (fixed 2 x)
  | none => "inf"

/-- The line of dashes between blocks. -/
def rule : String := String.ofList (List.replicate 80 '-')

/-- The line of summary. -/
def summaryLine (colours : Bool) (locale : Locale) (r : Report) : String :=
  (if r.successful then Style.green else Style.yellow).paint colours
    (locale.say (.summary r.testsRun.toNat (secondsText r.duration)))

/-- The lines of a message, indented. -/
def messageBlock (message : String) : List String :=
  (messageLines message.toList).map fun line => "  " ++ String.ofList line

/-- The block of the problem with a number, out of `count`. -/
def problemBlock (colours : Bool) (locale : Locale) (count number : Nat) (f : CaseFailure) :
    List String :=
  ("[" ++ text number ++ "/" ++ text count ++ "] "
    ++ Style.red.paint colours (locale.say (.reason f.reason))
    ++ " '" ++ Style.cyan.paint colours f.id.text ++ "'")
  :: messageBlock f.message ++ [rule]

def problemBlocks (colours : Bool) (locale : Locale) (count : Nat) :
    (number : Nat) → List CaseFailure → List String
  | _, [] => []
  | number, f :: fs =>
    problemBlock colours locale count number f ++ problemBlocks colours locale count (number + 1) fs

/-- The lines about problems; none if there are no problems. -/
def problemLines (colours : Bool) (locale : Locale) (problems : List CaseFailure) : List String :=
  if problems.isEmpty then []
  else
    "" :: Style.boldRed.paint colours (locale.say (.problemCount problems.length)) :: rule
      :: problemBlocks colours locale problems.length 1 problems

/-- The lines of a report. -/
def reportLines (colours : Bool) (locale : Locale) (r : Report) : List String :=
  summaryLine colours locale r :: problemLines colours locale r.problems

/-- Lines as a text, each with a line feed at its end. -/
def unlines (lines : List String) : String := String.join (lines.map (· ++ "\n"))

/-- **The printed report.** -/
def printReport (colours : Bool) (locale : Locale) (r : Report) : String :=
  unlines (reportLines colours locale r)

end SuitePool
