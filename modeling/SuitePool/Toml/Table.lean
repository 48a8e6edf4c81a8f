import SuitePool.Decimal.Digits
import SuitePool.Toml.Reader
import SuitePool.Toml.Scalar

/-!
# What settings texts say

The statements of a text are carried out one after the other on one table.  An entry puts a value
where there is none; the names before the last one of its key lead to a table that dotted keys have
made.  A header makes a table, or adopts one that other headers lead through; it may itself lead
through any table that is not written in line, and through the last one of a list of tables.

## Main definitions

* `Toml.namesOf`: the names of a key.
* `Toml.put`, `Toml.within`, `Toml.openTable`, `Toml.openItem`
* `Toml.Draft.value`
* `Toml.parse`: the table of a text.
-/

namespace SuitePool.Toml

open Decimal

/-! ## Names -/

/-- How many names a key may have. -/
def greatestKeyLength : Nat := 80

/-- May the character stand in a name without quotes? -/
def isNameChar (c : Char) : Bool :=
  ('a' ≤ c && c ≤ 'z') || ('A' ≤ c && c ≤ 'Z') || isDigit c || c == '_' || c == '-'

/-- The name that a word is. -/
def Word.name : Word → Except ReadError String
  | quoted (some s) => .ok s
  | bare cs => if cs.all isNameChar then .ok (String.ofList cs) else .error .invalid
  | _ => .error .invalid

/-- **The names of a key.**  Those that a key may have are read before it is found too long. -/
def namesOf (key : Key) : Except ReadError (List String) := do
  let names ← (key.take greatestKeyLength).mapM Word.name
  if greatestKeyLength < key.length then .error .keyTooLong else .ok names

/-! ## Tables -/

/-- The value of a name. -/
def lookup (name : String) (es : Entries) : Option Value :=
  (es.find? fun e => e.1 == name).map (·.2)

/-- The entries with another value for a name; `f` is given the one it has. -/
def alter (f : Option Value → Except ReadError Value) (name : String) :
    Entries → Except ReadError Entries
  | [] => (f none).map fun v => [(name, v)]
  | (m, v) :: es =>
    if m = name then (f (some v)).map fun v => (m, v) :: es
    else (alter f name es).map fun es => (m, v) :: es

/-- A value for a name that has none. -/
def fresh (new : Value) : Option Value → Except ReadError Value
  | none => .ok new
  | some _ => .error .invalid

/-- **Puts a value under a dotted key.**  The key may lead through tables that headers lead through,
but not end in one. -/
def put (new : Value) : List String → Entries → Except ReadError Entries
  | [], _ => .error .invalid
  | [name], es => alter (fresh new) name es
  | name :: more, es =>
    alter
      (fun
        | none => (put new more []).map (.table .dotted)
        | some (.table .dotted inner) => (put new more inner).map (.table .dotted)
        | some (.table .implied inner) =>
          if more.length = 1 then .error .invalid
          else (put new more inner).map (.table .implied)
        | some _ => .error .invalid)
      name es

/-- **Changes the table that a header leads to.** -/
def within (f : Entries → Except ReadError Entries) :
    List String → Entries → Except ReadError Entries
  | [], es => f es
  | name :: more, es =>
    alter
      (fun
        | none => (within f more []).map (.table .implied)
        | some (.table .inline _) => .error .invalid
        | some (.table form inner) => (within f more inner).map (.table form)
        | some (.tables items) =>
          match items.getLast? with
          | none => .error .invalid
          | some last => (within f more last).map fun last => .tables (items.dropLast ++ [last])
        | some _ => .error .invalid)
      name es

/-- The table of a header: a new one, or one that other headers lead through. -/
def headed : Option Value → Except ReadError Value
  | none => .ok (.table .headed [])
  | some (.table .implied inner) => .ok (.table .headed inner)
  | some _ => .error .invalid

/-- A list of tables with one more table. -/
def extended : Option Value → Except ReadError Value
  | none => .ok (.tables [[]])
  | some (.tables items) => .ok (.tables (items ++ [[]]))
  | some _ => .error .invalid

/-- Makes the change at the last one of some names, below the others. -/
def alterAt (f : Option Value → Except ReadError Value) (names : List String) (es : Entries) :
    Except ReadError Entries :=
  match names.getLast? with
  | none => .error .invalid
  | some name => within (alter f name) names.dropLast es

/-! ## Values -/

/-- The value that a word is. -/
def Word.value : Word → Except ReadError Value
  | quoted (some s) | spanning (some s) => .ok (.string s)
  | bare cs =>
    match scalar? cs with
    | some v => .ok v
    | none => .error .invalid
  | _ => .error .invalid

mutual

/-- **The value that was written.** -/
def Draft.value : Draft → Except ReadError Value
  | .word w => w.value
  | .array items => (valuesOf items).map .array
  | .table entries => (entriesOf [] entries).map (.table .inline)

/-- The values of a list. -/
def valuesOf : List Draft → Except ReadError (List Value)
  | [] => .ok []
  | d :: ds => do
    let v ← d.value
    let vs ← valuesOf ds
    .ok (v :: vs)

/-- The entries of a table that is written in line, put behind others. -/
def entriesOf (es : Entries) : List (Key × Draft) → Except ReadError Entries
  | [] => .ok es
  | (key, d) :: more => do
    let names ← namesOf key
    let v ← d.value
    entriesOf (← put v names es) more

end

/-! ## Texts -/

/-- A table under construction, and where in it entries are put. -/
structure Sheet where
  entries : Entries
  /-- The names that lead to the table of the last header. -/
  place : List String

/-- **Carries out one more statement.** -/
def Sheet.add (s : Sheet) : Statement → Except ReadError Sheet
  | .header key => do
    let names ← namesOf key
    .ok ⟨← alterAt headed names s.entries, names⟩
  | .item key => do
    let names ← namesOf key
    .ok ⟨← alterAt extended names s.entries, names⟩
  | .entry key d => do
    let names ← namesOf key
    let v ← d.value
    .ok ⟨← within (put v names) s.place s.entries, s.place⟩

/-- **The table of a settings text.** -/
def parse (text : String) : Except ReadError Entries :=
  match statements? text.toList with
  | none => .error .invalid
  | some statements => (statements.foldlM Sheet.add ⟨[], []⟩).map Sheet.entries

end SuitePool.Toml
