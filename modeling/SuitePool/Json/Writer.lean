import SuitePool.Json.Token

/-!
# Writing JSON

A value is written without blanks, its members in the order it has them.

## Main definitions

* `Json.tokens`: the tokens of a value.
* `Json.write`, `Json.text`: its characters.
-/

namespace SuitePool.Json

mutual

/-- **The tokens of a value.** -/
def tokens : Json → List Token
  | .scalar s => [.scalar s]
  | .array items => .openArray :: itemTokens items
  | .object members => .openObject :: memberTokens members

/-- The tokens of the items of an array, with its end. -/
def itemTokens : List Json → List Token
  | [] => [.closeArray]
  | j :: rest => tokens j ++ moreItemTokens rest

/-- The tokens of the further items of an array, with its end. -/
def moreItemTokens : List Json → List Token
  | [] => [.closeArray]
  | j :: rest => .comma :: (tokens j ++ moreItemTokens rest)

/-- The tokens of the members of an object, with its end. -/
def memberTokens : List (String × Json) → List Token
  | [] => [.closeObject]
  | (k, j) :: rest => .scalar (.string k) :: .colon :: (tokens j ++ moreMemberTokens rest)

/-- The tokens of the further members of an object, with its end. -/
def moreMemberTokens : List (String × Json) → List Token
  | [] => [.closeObject]
  | (k, j) :: rest =>
    .comma :: .scalar (.string k) :: .colon :: (tokens j ++ moreMemberTokens rest)

end

/-- **The characters of a value.** -/
def write (j : Json) : List Char := (tokens j).flatMap Token.text

def text (j : Json) : String := String.ofList (write j)

end SuitePool.Json
