import SuitePool.Json.Token
import SuitePool.Toml

/-!
# Tokens of settings texts

Four kinds of quoted texts exist.  Single quotes take everything as it stands and double quotes
know escapes; three quotes instead of one let the text span lines.  A line feed directly behind
three opening quotes is dropped, and so is everything blank behind a backslash at the end of a line.
A quoted text that is not well formed is a token, too: it ends at its closing quotes or, where they
are missing, with its line or the whole text.

Every reader takes the number of steps it may make, for which the length of its text is enough.

## Main definitions

* `Toml.escape?`, `Toml.readQuoted`, `Toml.readSpanning`
* `Toml.skipQuoted`, `Toml.skipSpanning`: where a text ends that is not well formed.
* `Toml.lex`
-/

namespace SuitePool.Toml

/-- May the character stand in a text or a comment? -/
def isTextChar (c : Char) : Bool := c == '\t' || (0x20 ≤ c.toNat && c != '\x7f')

/-- Is the character a blank within a line? -/
def isLineBlank (c : Char) : Bool := c == ' ' || c == '\t'

/-! ## Quoted texts -/

/-- The number that hexadecimal digits denote. -/
def hexNumber? (cs : List Char) : Option Nat :=
  cs.foldlM (fun n c => (hexValue? c).map (n * 16 + ·)) 0

/-- The character with a code point; nothing for a surrogate or a number out of range. -/
def charOfCode? (n : Nat) : Option Char :=
  if n < 0xD800 ∨ (0xDFFF < n ∧ n < 0x110000) then some (Char.ofNat n) else none

/-- The character of a code written as `count` hexadecimal digits. -/
def readCode (count : Nat) (cs : List Char) : Option (Char × List Char) := do
  guard (count ≤ cs.length)
  let c ← charOfCode? (← hexNumber? (cs.take count))
  some (c, cs.drop count)

/-- Reads an escape behind its backslash. -/
def escape? : List Char → Option (Char × List Char)
  | 'b' :: cs => some ('\x08', cs)
  | 't' :: cs => some ('\t', cs)
  | 'n' :: cs => some ('\n', cs)
  | 'f' :: cs => some ('\x0c', cs)
  | 'r' :: cs => some ('\r', cs)
  | 'e' :: cs => some ('\x1b', cs)
  | '"' :: cs => some ('"', cs)
  | '\\' :: cs => some ('\\', cs)
  | 'x' :: cs => readCode 2 cs
  | 'u' :: cs => readCode 4 cs
  | 'U' :: cs => readCode 8 cs
  | _ => none

/-- Reads a text on one line up to its closing quote. -/
def readQuoted (quote : Char) : (fuel : Nat) → List Char → Option (List Char × List Char)
  | 0, _ | _, [] => none
  | fuel + 1, c :: cs =>
    if c = quote then some ([], cs)
    else if c = '\\' ∧ quote = '"' then do
      let (e, cs) ← escape? cs
      let (text, rest) ← readQuoted quote fuel cs
      some (e :: text, rest)
    else if isTextChar c then do
      let (text, rest) ← readQuoted quote fuel cs
      some (c :: text, rest)
    else none

/-- The text without blanks and line ends at its start. -/
def skipBlankLines : List Char → List Char
  | ' ' :: cs | '\t' :: cs | '\n' :: cs => skipBlankLines cs
  | '\r' :: '\n' :: cs => skipBlankLines cs
  | cs => cs

/-- What follows a backslash at the end of a line, which only blanks may follow. -/
def afterLineEnd? (cs : List Char) : Option (List Char) :=
  match cs.dropWhile isLineBlank with
  | '\n' :: rest | '\r' :: '\n' :: rest => some (skipBlankLines rest)
  | _ => none

/-- Reads a text that may span lines, up to its three closing quotes.  One or two quotes more
directly before those belong to the text. -/
def readSpanning (quote : Char) : (fuel : Nat) → List Char → Option (List Char × List Char)
  | 0, _ | _, [] => none
  | fuel + 1, c :: cs =>
    if c = quote then
      let run := c :: cs.takeWhile (· == quote)
      let rest := cs.dropWhile (· == quote)
      if run.length < 3 then do
        let (text, rest) ← readSpanning quote fuel rest
        some (run ++ text, rest)
      -- The last three quotes close the text; at most two stand before them.
      else if run.length ≤ 5 then some (run.drop 3, rest)
      else none
    else if c = '\\' ∧ quote = '"' then
      match afterLineEnd? cs with
      | some cs => readSpanning quote fuel cs
      | none => do
        let (e, cs) ← escape? cs
        let (text, rest) ← readSpanning quote fuel cs
        some (e :: text, rest)
    else if isTextChar c ∨ c = '\n' ∨ (c = '\r' ∧ cs.head? = some '\n') then do
      let (text, rest) ← readSpanning quote fuel cs
      some (c :: text, rest)
    else none

/-- Does the character, behind a backslash in double quotes, not end the text? -/
def isGuarded (quote c : Char) : Bool := quote == '"' && (c == '"' || c == '\\')

/-- What follows a text on one line, well formed or not. -/
def skipQuoted (quote : Char) : List Char → List Char
  | [] => []
  | '\n' :: cs => '\n' :: cs
  | '\\' :: c :: cs =>
    if isGuarded quote c then skipQuoted quote cs else skipQuoted quote (c :: cs)
  | c :: cs => if c = quote then cs else skipQuoted quote cs

/-- The text without a quote at its start. -/
def dropQuote (quote : Char) : List Char → List Char
  | c :: cs => if c = quote then cs else c :: cs
  | [] => []

/-- What follows a text that may span lines, well formed or not. -/
def skipSpanning (quote : Char) : List Char → List Char
  | [] => []
  | '\\' :: c :: cs =>
    if isGuarded quote c then skipSpanning quote cs else skipSpanning quote (c :: cs)
  | c :: cs =>
    if cs.take 2 = [quote, quote] ∧ c = quote then dropQuote quote (dropQuote quote (cs.drop 2))
    else skipSpanning quote cs

/-- The text without a line end at its start. -/
def dropLineEnd : List Char → List Char
  | '\n' :: cs | '\r' :: '\n' :: cs => cs
  | cs => cs

/-! ## Tokens -/

def mark? : Char → Option Token
  | '=' => some .equals
  | ',' => some .comma
  | '.' => some .dot
  | '[' => some .openSquare
  | ']' => some .closeSquare
  | '\x7b' => some .openCurly
  | '\x7d' => some .closeCurly
  | '\n' => some .newline
  | _ => none

/-- May the character stand in a run of other characters? -/
def isBareChar (c : Char) : Bool :=
  (mark? c).isNone && !isLineBlank c && c != '"' && c != '\'' && c != '#' && c != '\r'

/-- Reads a quoted text on one line, behind its opening quote. -/
def lexQuoted (quote : Char) (cs : List Char) : Token × List Char :=
  match readQuoted quote cs.length cs with
  | some (text, rest) => (.word (.quoted (some (String.ofList text))), rest)
  | none => (.word (.quoted none), skipQuoted quote cs)

/-- Reads a quoted text that may span lines, behind its opening quotes. -/
def lexSpanning (quote : Char) (cs : List Char) : Token × List Char :=
  match readSpanning quote (cs.length + 1) (dropLineEnd cs) with
  | some (text, rest) => (.word (.spanning (some (String.ofList text))), rest)
  | none => (.word (.spanning none), skipSpanning quote cs)

/-- Reads the token that starts with `c`. -/
def lexToken (c : Char) (cs : List Char) : Option (Token × List Char) :=
  match mark? c with
  | some t => some (t, cs)
  | none =>
    if c = '\r' then
      match cs with
      | '\n' :: rest => some (.newline, rest)
      | _ => none
    else if isLineBlank c then
      some (.blank (c :: cs.takeWhile isLineBlank), cs.dropWhile isLineBlank)
    else if c = '"' ∨ c = '\'' then
      if cs.take 2 = [c, c] then some (lexSpanning c (cs.drop 2)) else some (lexQuoted c cs)
    else some (.word (.bare (c :: cs.takeWhile isBareChar)), cs.dropWhile isBareChar)

/-- Is the character the end of a line, or the start of one? -/
def isLineEnd (c : Char) : Bool := c == '\n' || c == '\r'

/-- The tokens of a text, read in at most `fuel` steps. -/
def lexSteps : (fuel : Nat) → List Char → Option (List Token)
  | _, [] => some []
  | 0, _ => none
  | fuel + 1, c :: cs =>
    if c = '#' then
      if (cs.takeWhile fun c => !isLineEnd c).all isTextChar then
        lexSteps fuel (cs.dropWhile fun c => !isLineEnd c)
      else none
    else do
      let (t, rest) ← lexToken c cs
      let ts ← lexSteps fuel rest
      some (t :: ts)

/-- **The tokens of a settings text.**  A byte order mark at its start is skipped. -/
def lex (cs : List Char) : Option (List Token) :=
  match cs with
  | '\uFEFF' :: rest => lexSteps rest.length rest
  | _ => lexSteps cs.length cs

end SuitePool.Toml
