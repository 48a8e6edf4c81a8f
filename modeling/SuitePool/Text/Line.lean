import SuitePool.Text.Split
import SuitePool.Text.Utf8

/-!
# Lines

Three readings of "line" meet in the pool, and they differ at the edges.

* A **byte line** ends with a line feed, which it keeps; the last one may lack it.  This is how the
  pool reads what a worker process prints.
* A **task line** is a byte line without its line feed, and without a carriage return directly
  before that line feed.  This is how a worker process reads its input.
* A **message line** is the same rule on characters; a trailing line feed opens no further line.

## Main definitions

* `cutLine`: the first byte line and the bytes after it.
* `byteLines`: all byte lines.
* `taskLine`: the contents of a byte line.
* `messageLines`: the lines of a text.

## Main results

* `cutLine_append`: cutting loses nothing.
* `cutLine_rest_length`: the rest is shorter.
-/

namespace SuitePool.Text

def lineFeed : UInt8 := 10

def carriageReturn : UInt8 := 13

/-! ## Byte lines -/

/-- The first byte line, its line feed included, and the bytes after it. -/
def cutLine : Bytes → Bytes × Bytes
  | [] => ([], [])
  | b :: bs =>
    if b = lineFeed then ([b], bs)
    else
      let (line, rest) := cutLine bs
      (b :: line, rest)

/-- Cutting a line loses nothing. -/
theorem cutLine_append (bs : Bytes) : (cutLine bs).1 ++ (cutLine bs).2 = bs := by
  induction bs with
  | nil => rfl
  | cons b bs ih =>
    by_cases h : b = lineFeed
    · simp [cutLine, h]
    · simp [cutLine, h, ih]

theorem cutLine_rest_length (b : UInt8) (bs : Bytes) :
    (cutLine (b :: bs)).2.length ≤ bs.length := by
  induction bs generalizing b with
  | nil =>
    by_cases h : b = lineFeed <;> simp [cutLine, h]
  | cons c bs ih =>
    by_cases h : b = lineFeed
    · simp [cutLine, h]
    · have := ih c
      simp only [cutLine, h, if_false] at this ⊢
      simp only [List.length_cons]
      omega

/-- All byte lines of a byte string. -/
def byteLines : Bytes → List Bytes
  | [] => []
  | b :: bs => (cutLine (b :: bs)).1 :: byteLines (cutLine (b :: bs)).2
termination_by bs => bs.length
decreasing_by
  have := cutLine_rest_length b bs
  simp only [List.length_cons]
  omega

/-! ## Task lines -/

/-- The contents of a byte line: its line feed is dropped, and so is a carriage return directly
before that line feed. -/
def taskLine (line : Bytes) : Bytes :=
  match line.reverse with
  | b :: r =>
    if b = lineFeed then
      match r with
      | c :: r' => if c = carriageReturn then r'.reverse else r.reverse
      | [] => []
    else line
  | [] => []

/-- The contents of all lines of a worker's input. -/
def taskLines (input : Bytes) : List Bytes := (byteLines input).map taskLine

/-! ## Message lines -/

/-- A line without a carriage return at its end. -/
def dropReturn (line : List Char) : List Char :=
  match line.reverse with
  | '\r' :: r => r.reverse
  | _ => line

/-- The lines of a text.  A line feed ends a line, so the text after the last line feed counts only
if it is not empty; a carriage return directly before a line feed belongs to the line's end. -/
def messageLines (cs : List Char) : List (List Char) :=
  let all := parts '\n' cs
  let ended := all.dropLast.map dropReturn
  match all.getLast? with
  | some [] => ended
  | some l => ended ++ [l]
  | none => ended

end SuitePool.Text
