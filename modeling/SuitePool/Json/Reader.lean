import SuitePool.Json.Token

/-!
# Reading JSON

A JSON text is read by a machine that takes one token at a time.  Its state says what may come
next and which arrays and objects are open around that place; a value that is complete is handed to
the innermost of them.  No more than 127 arrays and objects may be open at once.

## Main definitions

* `Json.Context`: an open array or object.
* `Json.Reading`: the state between two tokens.
* `Json.step`: one token.
* `Json.ofTokens?`, `Json.parse?`: the value that tokens, or a text, denote.

## Main results

* `Json.run_append`: reading is done piece by piece.
-/

namespace SuitePool.Json

/-- How many arrays and objects may be open at once. -/
def greatestDepth : Nat := 127

/-- An array or object with an unfinished part.  What was read before comes last first. -/
inductive Context where
  /-- An array, before its next item. -/
  | array (items : List Json)
  /-- An object, before the value of a key. -/
  | object (members : List (String × Json)) (key : String)

/-- What has to come next, inside the open arrays and objects `outer`, innermost first. -/
inductive Reading where
  /-- A value. -/
  | value (outer : List Context)
  /-- The first item of an array, or its end. -/
  | firstItem (outer : List Context)
  /-- A further item of an array, or its end. -/
  | afterItem (items : List Json) (outer : List Context)
  /-- The first key of an object, or its end. -/
  | firstKey (outer : List Context)
  /-- A further key of an object. -/
  | key (members : List (String × Json)) (outer : List Context)
  /-- The colon after a key. -/
  | colon (members : List (String × Json)) (key : String) (outer : List Context)
  /-- A further member of an object, or its end. -/
  | afterMember (members : List (String × Json)) (outer : List Context)
  /-- Nothing. -/
  | finished (j : Json)

/-- Hands a complete value to the innermost open array or object. -/
def supply (j : Json) : List Context → Reading
  | [] => .finished j
  | .array items :: outer => .afterItem (j :: items) outer
  | .object members key :: outer => .afterMember ((key, j) :: members) outer

def start (outer : List Context) : Token → Option Reading
  | .scalar s => some (supply (.scalar s) outer)
  | .openArray => if outer.length < greatestDepth then some (.firstItem outer) else none
  | .openObject => if outer.length < greatestDepth then some (.firstKey outer) else none
  | _ => none

/-- **One token.** -/
def step : Reading → Token → Option Reading
  | .value outer, t => start outer t
  | .firstItem outer, .closeArray => some (supply (.array []) outer)
  -- The array is open around its first item, and counts as such.
  | .firstItem outer, t => start (.array [] :: outer) t
  | .afterItem items outer, .comma => some (.value (.array items :: outer))
  | .afterItem items outer, .closeArray => some (supply (.array items.reverse) outer)
  | .firstKey outer, .closeObject => some (supply (.object []) outer)
  | .firstKey outer, .scalar (.string k) => some (.colon [] k outer)
  | .key members outer, .scalar (.string k) => some (.colon members k outer)
  | .colon members k outer, .colon => some (.value (.object members k :: outer))
  | .afterMember members outer, .comma => some (.key members outer)
  | .afterMember members outer, .closeObject => some (supply (.object members.reverse) outer)
  | _, _ => none

/-- Reads tokens from a state on. -/
def run (r : Reading) (ts : List Token) : Option Reading := ts.foldlM step r

@[simp] theorem run_nil (r : Reading) : run r [] = some r := rfl

@[simp] theorem run_cons (r : Reading) (t : Token) (ts : List Token) :
    run r (t :: ts) = (step r t).bind (run · ts) := by
  simp [run, List.foldlM_cons]

/-- Reading is done piece by piece. -/
theorem run_append (r : Reading) (ts us : List Token) :
    run r (ts ++ us) = (run r ts).bind (run · us) := by
  simp [run, List.foldlM_append]

/-- The value of a finished reading. -/
def Reading.value? : Reading → Option Json
  | .finished j => some j
  | _ => none

/-- The value that tokens denote. -/
def ofTokens? (ts : List Token) : Option Json := (run (.value []) ts).bind Reading.value?

/-- **The value that a text denotes.** -/
def parse? (cs : List Char) : Option Json := (lex cs).bind ofTokens?

end SuitePool.Json
