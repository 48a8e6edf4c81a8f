/-!
# Settings texts in TOML

A settings text is a list of statements, one on each line: a header names the table that the
following lines belong to, and an entry gives a key a value.  Keys are dotted lists of names.

It is read in two stages.  The first one finds the shape of the whole text: where names, marks and
values stand, and how deeply values are nested.  The second one takes the statements in their order,
reads the names and values in them, and puts the values into one table.  So a fault of shape
anywhere in the text counts before any other fault, and of those the first one counts.

## Main definitions

* `Toml.Word`, `Toml.Token`: what the lines are made of.
* `Toml.Draft`, `Toml.Statement`: the shape of a text.
* `Toml.Value`: what it says.
* `Toml.ReadError`
-/

namespace SuitePool.Toml

/-! ## Tokens -/

/-- A name, or a value without brackets.  A quoted text is nothing if it is not well formed. -/
inductive Word where
  /-- A quoted text on one line. -/
  | quoted (s : Option String)
  /-- A quoted text that may span lines. -/
  | spanning (s : Option String)
  /-- A run of other characters. -/
  | bare (cs : List Char)
  deriving DecidableEq

/-- A token; a comment is none. -/
inductive Token where
  | equals
  | comma
  | dot
  | openSquare
  | closeSquare
  | openCurly
  | closeCurly
  | newline
  | blank (cs : List Char)
  | word (w : Word)
  deriving DecidableEq

/-! ## Shapes -/

/-- A key as it is written: its names. -/
abbrev Key := List Word

/-- A value as it is written. -/
inductive Draft where
  /-- A value without brackets. -/
  | word (w : Word)
  /-- A list of values. -/
  | array (items : List Draft)
  /-- A table written in line, with its keys. -/
  | table (entries : List (Key × Draft))

/-- A line with content. -/
inductive Statement where
  /-- The table that the following entries belong to. -/
  | header (key : Key)
  /-- One more table of a list; the following entries belong to it. -/
  | item (key : Key)
  /-- A key and its value. -/
  | entry (key : Key) (value : Draft)

/-! ## Values -/

/-- How a table came about, on which it depends how it may grow. -/
inductive TableForm where
  /-- It was written in line. -/
  | inline
  /-- A dotted key leads through it. -/
  | dotted
  /-- A header leads through it. -/
  | implied
  /-- It has a header of its own. -/
  | headed
  deriving DecidableEq

/-- A value. -/
inductive Value where
  | string (s : String)
  /-- A whole number.  Its digits are looked at only by those who use it, so there may be none. -/
  | integer (n : Option Int)
  /-- A number with a fraction or an exponent, or one that is not finite.  No setting is one. -/
  | float
  | boolean (b : Bool)
  /-- A date, a time, or both.  No setting is one. -/
  | dateTime
  | array (items : List Value)
  | table (form : TableForm) (entries : List (String × Value))
  /-- A list of tables that have headers of their own. -/
  | tables (items : List (List (String × Value)))

/-- The entries of a table. -/
abbrev Entries := List (String × Value)

/-- Why a text is no settings text. -/
inductive ReadError where
  /-- It breaks a rule of the notation. -/
  | invalid
  /-- A key has too many names. -/
  | keyTooLong
  deriving DecidableEq

end SuitePool.Toml
