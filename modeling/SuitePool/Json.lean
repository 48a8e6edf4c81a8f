import SuitePool.Decimal.Binary64

/-!
# JSON values

Tasks and replies travel between the pool and its worker processes as JSON texts.  A value keeps
the members of an object in the order they were written and keeps repeated keys, because a record
with a repeated key is refused.  `Json.normal` is the form a free value is stored in: keys in
increasing order, the last of several members with one key.

## Main definitions

* `Number`, `Scalar`, `Json`
* `Json.normal`: the stored form.
* `Json.depth`: how deeply arrays and objects are nested.
-/

namespace SuitePool

open Decimal (Binary64)

/-- A JSON number: a whole number from `-2 ^ 63` to `2 ^ 64 - 1`, or a binary64 number. -/
inductive Number where
  /-- A whole number. -/
  | int (i : Int)
  /-- Any number written with a fraction or an exponent, too large, or `-0`. -/
  | float (x : Binary64)
  deriving DecidableEq

/-- A JSON value without parts. -/
inductive Scalar where
  | null
  | bool (b : Bool)
  | number (n : Number)
  | string (s : String)
  deriving DecidableEq

/-- A JSON value. -/
inductive Json where
  | scalar (s : Scalar)
  | array (items : List Json)
  /-- Members in the order they were written. -/
  | object (members : List (String × Json))

namespace Json

@[match_pattern] def null : Json := .scalar .null

@[match_pattern] def bool (b : Bool) : Json := .scalar (.bool b)

@[match_pattern] def int (i : Int) : Json := .scalar (.number (.int i))

@[match_pattern] def string (s : String) : Json := .scalar (.string s)

instance : Inhabited Json := ⟨null⟩

/-- A natural number. -/
def nat (n : Nat) : Json := int n

def strings (ss : List String) : Json := array (ss.map string)

/-! ## The stored form -/

/-- Puts a member into a list of members with increasing keys, in place of one with that key. -/
def insertMember {α : Type} (key : String) (a : α) : List (String × α) → List (String × α)
  | [] => [(key, a)]
  | (k, b) :: rest =>
    if key < k then (key, a) :: (k, b) :: rest
    else if key = k then (key, a) :: rest
    else (k, b) :: insertMember key a rest

/-- Members by increasing key, the last one of each key. -/
def sortMembers {α : Type} (members : List (String × α)) : List (String × α) :=
  members.foldl (fun done m => insertMember m.1 m.2 done) []

mutual

/-- **The stored form** of a value: in every object the keys increase, and of several members with
one key the last one stays. -/
def normal : Json → Json
  | .scalar s => .scalar s
  | .array items => .array (normalItems items)
  | .object members => .object (sortMembers (normalMembers members))

/-- The stored form of every item. -/
def normalItems : List Json → List Json
  | [] => []
  | j :: rest => normal j :: normalItems rest

def normalMembers : List (String × Json) → List (String × Json)
  | [] => []
  | (k, j) :: rest => (k, normal j) :: normalMembers rest

end

/-! ## Nesting -/

mutual

/-- How deeply arrays and objects are nested; zero for a scalar. -/
def depth : Json → Nat
  | .scalar _ => 0
  | .array items => depthItems items + 1
  | .object members => depthMembers members + 1

def depthItems : List Json → Nat
  | [] => 0
  | j :: rest => max (depth j) (depthItems rest)

/-- The greatest depth among the values of members. -/
def depthMembers : List (String × Json) → Nat
  | [] => 0
  | (_, j) :: rest => max (depth j) (depthMembers rest)

end

/-! ## Members -/

/-- The value of the last member with a key. -/
def member? (key : String) : Json → Option Json
  | .object members => (members.reverse.find? (fun m => m.1 == key)).map (·.2)
  | _ => none

end Json

end SuitePool
