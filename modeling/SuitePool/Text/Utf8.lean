/-!
# UTF-8

Text leaves and enters the pool as bytes: file names, configuration files, and everything that
worker processes print.  `encode` writes characters as UTF-8.  Reading is total: `scan` cuts any
byte string into *pieces*, each a character or a maximal ill-formed run, and the two ways to read
text are views of that one cut.  `decode?` refuses a byte string that has an ill-formed piece;
`decodeLossy` replaces each such piece by U+FFFD.

An ill-formed piece is as long as it can be while it still starts some well-formed character
(and is one byte if no character starts there).

## Main definitions

* `Text.Bytes`: byte strings.
* `Utf8.encode`: characters to bytes.
* `Utf8.scan`: bytes to pieces.
* `Utf8.decode?`, `Utf8.decodeLossy`: the strict and the lossy reading.

## Main results

* `Utf8.scan_nil`, `Utf8.scan_cons`: how a byte string is cut.
-/

namespace SuitePool.Text

/-- A byte string. -/
abbrev Bytes := List UInt8

namespace Utf8

/-! ## Writing -/

/-- The one to four bytes of a character. -/
def encodeChar (c : Char) : Bytes :=
  let n := c.toNat
  if n < 0x80 then [.ofNat n]
  else if n < 0x800 then [.ofNat (0xC0 + n / 64), .ofNat (0x80 + n % 64)]
  else if n < 0x10000 then
    [.ofNat (0xE0 + n / 4096), .ofNat (0x80 + n / 64 % 64), .ofNat (0x80 + n % 64)]
  else
    [.ofNat (0xF0 + n / 262144), .ofNat (0x80 + n / 4096 % 64), .ofNat (0x80 + n / 64 % 64),
      .ofNat (0x80 + n % 64)]

/-- The UTF-8 form of a list of characters. -/
def encode (cs : List Char) : Bytes := cs.flatMap encodeChar

/-! ## Reading -/

/-- What a first byte announces: its payload bits, how many bytes follow, and the range the next
of them has to lie in.  The ranges exclude overlong forms, surrogates and values above U+10FFFF. -/
structure Lead where
  bits : Nat
  more : Nat
  low : Nat
  high : Nat

/-- The announcement of a first byte, if some character starts with it. -/
def lead? (b : UInt8) : Option Lead :=
  let n := b.toNat
  if n < 0x80 then some ⟨n, 0, 0x80, 0xBF⟩
  else if n < 0xC2 then none
  else if n < 0xE0 then some ⟨n - 0xC0, 1, 0x80, 0xBF⟩
  else if n = 0xE0 then some ⟨0, 2, 0xA0, 0xBF⟩
  else if n = 0xED then some ⟨0xD, 2, 0x80, 0x9F⟩
  else if n < 0xF0 then some ⟨n - 0xE0, 2, 0x80, 0xBF⟩
  else if n = 0xF0 then some ⟨0, 3, 0x90, 0xBF⟩
  else if n < 0xF4 then some ⟨n - 0xF0, 3, 0x80, 0xBF⟩
  else if n = 0xF4 then some ⟨4, 3, 0x80, 0x8F⟩
  else none

/-- Reads the continuation bytes of a character: how many of them are there, and the value they
complete when all `more` are. -/
def continuation (bits : Nat) : (more low high : Nat) → Bytes → Nat × Option Nat
  | 0, _, _, _ => (0, some bits)
  | _ + 1, _, _, [] => (0, none)
  | more + 1, low, high, b :: bs =>
    if low ≤ b.toNat ∧ b.toNat ≤ high then
      let (used, value) := continuation (bits * 64 + (b.toNat - 0x80)) more 0x80 0xBF bs
      (used + 1, value)
    else (0, none)

/-- One piece of a byte string. -/
inductive Piece where
  /-- A well-formed character. -/
  | char (c : Char)
  /-- A maximal ill-formed run. -/
  | stray (bytes : Bytes)
  deriving DecidableEq

/-- The piece that starts with `b`, and how many of the bytes after `b` it takes. -/
def piece (b : UInt8) (bs : Bytes) : Piece × Nat :=
  match lead? b with
  | none => (.stray [b], 0)
  | some l =>
    match continuation l.bits l.more l.low l.high bs with
    | (used, some n) => (.char (Char.ofNat n), used)
    | (used, none) => (.stray (b :: bs.take used), used)

/-- Cuts a byte string into pieces. -/
def scan : Bytes → List Piece
  | [] => []
  | b :: bs =>
    let p := piece b bs
    p.1 :: scan (bs.drop p.2)
termination_by bs => bs.length
decreasing_by simp only [List.length_drop, List.length_cons]; omega

@[simp] theorem scan_nil : scan [] = [] := by simp [scan]

theorem scan_cons (b : UInt8) (bs : Bytes) :
    scan (b :: bs) = (piece b bs).1 :: scan (bs.drop (piece b bs).2) := by
  rw [scan]

/-- The character a piece is read as when nothing may be refused. -/
def Piece.toChar : Piece → Char
  | .char c => c
  | .stray _ => '\uFFFD'

/-- The character of a well-formed piece. -/
def Piece.char? : Piece → Option Char
  | .char c => some c
  | .stray _ => none

/-- **The strict reading**: the characters of a well-formed byte string. -/
def decode? (bs : Bytes) : Option (List Char) := (scan bs).mapM Piece.char?

/-- **The lossy reading**: each ill-formed piece becomes one U+FFFD. -/
def decodeLossy (bs : Bytes) : List Char := (scan bs).map Piece.toChar

end Utf8

def utf8 (s : String) : Bytes := Utf8.encode s.toList

/-- The text a byte string is shown as, ill-formed pieces replaced. -/
def showBytes (bs : Bytes) : String := String.ofList (Utf8.decodeLossy bs)

/-- The text of a well-formed byte string. -/
def text? (bs : Bytes) : Option String := (Utf8.decode? bs).map String.ofList

end SuitePool.Text
