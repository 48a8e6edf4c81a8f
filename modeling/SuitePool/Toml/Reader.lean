import SuitePool.Toml.Lexer

/-!
# The shape of settings texts

Within a line blanks may stand between any two tokens, except inside doubled brackets and inside a
value without brackets.  Between the brackets of a list or a table lines may end anywhere, except
inside a key.  A value lies in at most `greatestDepth` pairs of brackets.

## Main definitions

* `Toml.readKey`, `Toml.readDraft`
* `Toml.statements?`: the statements of a text.
-/

namespace SuitePool.Toml

/-- In how many pairs of brackets a value may lie. -/
def greatestDepth : Nat := 80

/-! ## Blanks -/

/-- Is the token blanks within a line? -/
def Token.isBlank : Token → Bool
  | blank _ => true
  | _ => false

def skipBlanks (ts : List Token) : List Token := ts.dropWhile Token.isBlank

/-- The tokens without blanks and line ends at their start. -/
def skipGaps (ts : List Token) : List Token := ts.dropWhile fun t => t.isBlank || t == .newline

/-! ## Keys and words -/

/-- Reads a key, which is words joined by dots, in at most `fuel` steps. -/
def readKey : (fuel : Nat) → List Token → Option (Key × List Token)
  | fuel + 1, .word w :: ts =>
    match skipBlanks ts with
    | .dot :: ts => do
      let (key, rest) ← readKey fuel (skipBlanks ts)
      some (w :: key, rest)
    | ts => some ([w], ts)
  | _, _ => none

/-- Reads the rest of a value without brackets and quotes.  It may go on behind dots, and behind
blanks if a run of characters follows them. -/
def readRuns : List Token → List Char × List Token
  | .word (.bare cs) :: ts => ((cs ++ (readRuns ts).1), (readRuns ts).2)
  | .dot :: ts => ('.' :: (readRuns ts).1, (readRuns ts).2)
  | .blank bs :: .word (.bare cs) :: ts => ((bs ++ cs ++ (readRuns ts).1), (readRuns ts).2)
  | ts => ([], ts)

/-! ## Values -/

mutual

/-- Reads a value in at most `fuel` steps, with at most `depth` brackets inside each other. -/
def readDraft (depth : Nat) : (fuel : Nat) → List Token → Option (Draft × List Token)
  | 0, _ => none
  | fuel + 1, ts =>
    match ts with
    | .openSquare :: ts =>
      if depth = 0 then none
      else (readItems (depth - 1) fuel ts).map fun p => (.array p.1, p.2)
    | .openCurly :: ts =>
      if depth = 0 then none
      else (readEntries (depth - 1) fuel ts).map fun p => (.table p.1, p.2)
    | .word (.bare cs) :: ts =>
      let (more, rest) := readRuns ts
      some (.word (.bare (cs ++ more)), rest)
    | .word w :: ts => some (.word w, ts)
    | _ => none

def readItems (depth : Nat) : (fuel : Nat) → List Token → Option (List Draft × List Token)
  | 0, _ => none
  | fuel + 1, ts =>
    match skipGaps ts with
    | .closeSquare :: rest => some ([], rest)
    | ts => do
      let (d, ts) ← readDraft depth fuel ts
      match skipGaps ts with
      | .comma :: ts =>
        let (ds, rest) ← readItems depth fuel ts
        some (d :: ds, rest)
      | .closeSquare :: rest => some ([d], rest)
      | _ => none

def readEntries (depth : Nat) : (fuel : Nat) → List Token → Option (List (Key × Draft) × List Token)
  | 0, _ => none
  | fuel + 1, ts =>
    match skipGaps ts with
    | .closeCurly :: rest => some ([], rest)
    | ts => do
      let (key, ts) ← readKey ts.length ts
      let .equals :: ts := skipGaps ts | none
      let (d, ts) ← readDraft depth fuel (skipGaps ts)
      match skipGaps ts with
      | .comma :: ts =>
        let (entries, rest) ← readEntries depth fuel ts
        some ((key, d) :: entries, rest)
      | .closeCurly :: rest => some ([(key, d)], rest)
      | _ => none

end

/-! ## Statements -/

/-- Reads a statement. -/
def readStatement (ts : List Token) : Option (Statement × List Token) :=
  match ts with
  | .openSquare :: .openSquare :: ts => do
    let (key, ts) ← readKey ts.length (skipBlanks ts)
    let .closeSquare :: .closeSquare :: rest := ts | none
    some (.item key, rest)
  | .openSquare :: ts => do
    let (key, ts) ← readKey ts.length (skipBlanks ts)
    let .closeSquare :: rest := ts | none
    some (.header key, rest)
  | ts => do
    let (key, ts) ← readKey ts.length ts
    let .equals :: ts := ts | none
    let (d, rest) ← readDraft greatestDepth (2 * ts.length + 2) (skipBlanks ts)
    some (.entry key d, rest)

/-- Reads statements, each on lines of its own, in at most `fuel` steps. -/
def readStatements : (fuel : Nat) → List Token → Option (List Statement)
  | 0, _ => none
  | fuel + 1, ts =>
    match skipGaps ts with
    | [] => some []
    | ts => do
      let (s, rest) ← readStatement ts
      match skipBlanks rest with
      | [] => some [s]
      | .newline :: rest =>
        let more ← readStatements fuel rest
        some (s :: more)
      | _ => none

/-- **The statements of a settings text.** -/
def statements? (cs : List Char) : Option (List Statement) := do
  let ts ← lex cs
  readStatements (ts.length + 1) ts

end SuitePool.Toml
