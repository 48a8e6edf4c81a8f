import SuitePool.Locale
import SuitePool.Text.CharClass.Alphanumeric

/-!
# Expanding variables and the home directory

A dollar sign with a name behind it, bare or in braces, stands for a variable of the environment;
a name in braces may be followed by `:-` and a text to use where the variable is not set.  Two
dollar signs stand for one, and any other dollar sign for itself.  A tilde at the start, alone or
before a slash, stands for the home directory, unless it came there from a variable.

## Main definitions

* `Shell.Piece`, `Shell.pieces`: how a text with dollar signs is read.
* `Shell.expandVariables`, `Shell.expandHome`, `Shell.expand`
-/

namespace SuitePool.Shell

open Text

/-- A piece of a text with dollar signs. -/
inductive Piece where
  /-- Characters that stand for themselves. -/
  | plain (cs : List Char)
  /-- A variable, and the text to use where it is not set. -/
  | named (name : List Char) (default : Option (List Char))

/-- May the character stand in the name of a variable without braces? -/
def isNameChar (c : Char) : Bool := isAlphanumeric c || c == '_'

/-- What stands between braces: a name, and behind the first `:-` a default.  There is no default
where no name precedes it. -/
def bracedPiece : (name inside : List Char) → Piece
  | name, [] => .named name.reverse none
  | name, ':' :: '-' :: default =>
    if name.isEmpty then .named (':' :: '-' :: default) none
    else .named name.reverse (some default)
  | name, c :: cs => bracedPiece (c :: name) cs

/-- Cuts a text at its first closing brace. -/
def splitAtBrace (cs : List Char) : Option (List Char × List Char) :=
  match cs.dropWhile (· != '\x7d') with
  | [] => none
  | _ :: rest => some (cs.takeWhile (· != '\x7d'), rest)

/-- The piece behind a dollar sign, and what follows it. -/
def dollarPiece : List Char → Piece × List Char
  | '\x7b' :: cs =>
    match splitAtBrace cs with
    | some (inside, rest) => (bracedPiece [] inside, rest)
    | none => (.plain ['$', '\x7b'], cs)
  | '$' :: cs => (.plain ['$'], cs)
  | cs =>
    if cs.takeWhile isNameChar = [] then (.plain ['$'], cs)
    else (.named (cs.takeWhile isNameChar) none, cs.dropWhile isNameChar)

/-- The pieces of a text, read in at most `fuel` steps. -/
def piecesIn : (fuel : Nat) → List Char → List Piece
  | 0, _ | _, [] => []
  | fuel + 1, c :: cs =>
    if c = '$' then
      let (piece, rest) := dollarPiece cs
      piece :: piecesIn fuel rest
    else .plain [c] :: piecesIn fuel cs

/-- The pieces of a text. -/
def pieces (cs : List Char) : List Piece := piecesIn cs.length cs

/-- A variable that is looked up but not set. -/
structure LookupError where
  name : String
  deriving DecidableEq

def LookupError.message (e : LookupError) : String :=
  "error looking key '" ++ e.name ++ "' up: environment variable not found"

/-- What a piece stands for. -/
def Piece.value (env : Environment) : Piece → Except LookupError (List Char)
  | plain cs => .ok cs
  | named name default =>
    match env.get? (String.ofList name), default with
    | some value, _ => .ok value.toList
    | none, some d => .ok d
    | none, none => .error ⟨String.ofList name⟩

/-- **Puts the values of variables in.** -/
def expandVariables (env : Environment) (cs : List Char) : Except LookupError (List Char) := do
  let values ← (pieces cs).mapM (Piece.value env)
  .ok values.flatten

/-- The home directory. -/
def homeDirectory (env : Environment) : String :=
  match env.get? "HOME" with
  | some home => if home.isEmpty then "/root" else home
  | none => "/root"

/-- Puts the home directory in place of a tilde at the start. -/
def expandHome (env : Environment) : List Char → List Char
  | '~' :: [] => (homeDirectory env).toList
  | '~' :: '/' :: cs => (homeDirectory env).toList ++ '/' :: cs
  | cs => cs

/-- **Expands a text.**  A tilde that came from a variable stands for itself. -/
def expand (env : Environment) (s : String) : Except LookupError String := do
  let cs := s.toList
  let expanded ← expandVariables env cs
  -- The home directory replaces only what the text itself starts with.
  let fromVariable := expanded.head? = some '~' ∧ cs.head? ≠ some '~'
  .ok (String.ofList (if fromVariable then expanded else expandHome env expanded))

end SuitePool.Shell
