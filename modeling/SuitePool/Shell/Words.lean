/-!
# Words of a command line

A command line is cut into words as a shell does.  Blanks separate words; quotes and backslashes
take blanks into a word; a hash sign where a word could start opens a comment that ends with its
line.  A quote that is not closed, or a backslash at the end, spoils the whole line.

## Main definitions

* `Shell.words?`
-/

namespace SuitePool.Shell

/-- Does the character separate words? -/
def separatesWords (c : Char) : Bool := c == ' ' || c == '\t' || c == '\n'

inductive Place where
  /-- Between words. -/
  | between
  /-- In a comment. -/
  | comment
  /-- In a word. -/
  | word
  /-- In a word, behind a backslash. -/
  | escaped
  /-- In a word, between single quotes. -/
  | single
  /-- In a word, between double quotes. -/
  | double
  /-- In a word, between double quotes, behind a backslash. -/
  | doubleEscaped
  deriving DecidableEq

/-- What was read so far. -/
structure Reading where
  /-- Where the reader is. -/
  place : Place
  /-- The characters of the word that is being read, the last one first. -/
  current : List Char
  /-- The words that were read, the last one first. -/
  done : List String

/-- The place and the word behind a character of a word. -/
def inWord (r : Reading) (c : Char) : Reading :=
  if c = '"' then { r with place := .double }
  else if c = '\'' then { r with place := .single }
  else if c = '\\' then { r with place := .escaped }
  else if separatesWords c then
    ⟨.between, [], String.ofList r.current.reverse :: r.done⟩
  else ⟨.word, c :: r.current, r.done⟩

/-- **One more character.** -/
def step (r : Reading) (c : Char) : Reading :=
  match r.place with
  | .between =>
    if separatesWords c then r
    else if c = '#' then { r with place := .comment }
    else inWord r c
  | .comment => if c = '\n' then { r with place := .between } else r
  | .word => inWord r c
  | .escaped =>
    if c = '\n' then { r with place := .word } else ⟨.word, c :: r.current, r.done⟩
  | .single =>
    if c = '\'' then { r with place := .word } else { r with current := c :: r.current }
  | .double =>
    if c = '"' then { r with place := .word }
    else if c = '\\' then { r with place := .doubleEscaped }
    else { r with current := c :: r.current }
  | .doubleEscaped =>
    if c = '$' ∨ c = '\x60' ∨ c = '"' ∨ c = '\\' then ⟨.double, c :: r.current, r.done⟩
    else if c = '\n' then { r with place := .double }
    else ⟨.double, c :: '\\' :: r.current, r.done⟩

/-- The words at the end of a line, the last one first. -/
def finish (r : Reading) : Option (List String) :=
  match r.place with
  | .between | .comment => some r.done
  | .word => some (String.ofList r.current.reverse :: r.done)
  | _ => none

/-- **The words of a command line.** -/
def words? (line : String) : Option (List String) :=
  (finish (line.toList.foldl step ⟨.between, [], []⟩)).map List.reverse

end SuitePool.Shell
