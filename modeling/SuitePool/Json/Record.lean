import SuitePool.Json

/-!
# Typed values in JSON

Tasks, replies and reports are records.  A record is an object with one member for each field;
members with other keys are ignored, and a field that is missing or written twice makes the record
unreadable.  An array with exactly one item for each field, in the order of the fields, is another
spelling of the same record.

A record that is one of several variants names its variant in a tag: a member of the object, or the
first item of the array.

## Main definitions

* `Json.string?`, `Json.natural?`, `Json.list?`, `Json.word?`
* `Json.fields?`: the fields of a record.
* `Json.variant?`: the variant of a tagged record, and its other fields.
-/

namespace SuitePool.Json

def string? : Json → Option String
  | .scalar (.string s) => some s
  | _ => none

/-- A whole number from zero to `2 ^ 64 - 1`. -/
def natural? : Json → Option Nat
  | .scalar (.number (.int (.ofNat n))) => if n < UInt64.size then some n else none
  | _ => none

/-- An array whose items can all be read. -/
def list? {α : Type} (read : Json → Option α) : Json → Option (List α)
  | .array items => items.mapM read
  | _ => none

def bool? : Json → Option Bool
  | .scalar (.bool b) => some b
  | _ => none

/-- A word: a text, or an object with the word as its one key and nothing as its value. -/
def word? : Json → Option String
  | .scalar (.string s) => some s
  | .object [(s, .scalar .null)] => some s
  | _ => none

/-- A word inside a tagged record, where an empty object is nothing too. -/
def taggedWord? : Json → Option String
  | .object [(s, .object [])] => some s
  | j => word? j

/-- The value of the one member with a key. -/
def once? (key : String) (members : List (String × Json)) : Option Json :=
  match members.filter (fun m => m.1 == key) with
  | [m] => some m.2
  | _ => none

/-- **The fields of a record**, in the order of their names. -/
def fields? (names : List String) : Json → Option (List Json)
  | .object members => names.mapM (once? · members)
  | .array items => if items.length = names.length then some items else none
  | _ => none

/-- **The variant of a tagged record**, and the record of its other fields. -/
def variant? (tag : String) : Json → Option (String × Json)
  | .object members => do
    let name ← (← once? tag members).string?
    some (name, .object (members.filter (fun m => m.1 != tag)))
  | .array (j :: items) => do some (← j.string?, .array items)
  | _ => none

end SuitePool.Json
