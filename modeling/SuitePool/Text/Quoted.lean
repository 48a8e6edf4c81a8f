import SuitePool.Text.Utf8
import SuitePool.Text.CharClass.Printable
import SuitePool.Text.CharClass.GraphemeExtend

/-!
# Quoted names

Lists of paths are shown inside messages with every name in double quotes.  A quotation mark, a
backslash and the four common control characters are written with a backslash; any other character
that would not show as itself is written by its code point in braces, and a byte that is no
character by its two hexadecimal digits.

## Main definitions

* `Quoted.escape`: the written form of one character.
* `quote`: a byte string in quotes.
* `quoteAll`: a bracketed list of quoted byte strings.
-/

namespace SuitePool.Text

namespace Quoted

def hex (n : Nat) : List Char := Nat.toDigits 16 n

/-- The written form of a character between quotation marks. -/
def escape (c : Char) : List Char :=
  match c with
  | '\x00' => ['\\', '0']
  | '\t' => ['\\', 't']
  | '\r' => ['\\', 'r']
  | '\n' => ['\\', 'n']
  | '\\' => ['\\', '\\']
  | '"' => ['\\', '"']
  | c =>
    if !extendsGrapheme c && isPrintable c then [c]
    else ['\\', 'u', '\x7b'] ++ hex c.toNat ++ ['\x7d']

/-- The written form of a byte that belongs to no character. -/
def escapeByte (b : UInt8) : List Char :=
  let digits := (hex b.toNat).map Char.toUpper
  ['\\', 'x'] ++ (if digits.length < 2 then '0' :: digits else digits)

/-- The written form of one piece of a byte string. -/
def escapePiece : Utf8.Piece → List Char
  | .char c => escape c
  | .stray bs => bs.flatMap escapeByte

end Quoted

/-- A byte string in quotes. -/
def quote (bs : Bytes) : String :=
  String.ofList ('"' :: (Utf8.scan bs).flatMap Quoted.escapePiece ++ ['"'])

/-- A bracketed list of quoted byte strings. -/
def quoteAll (names : List Bytes) : String :=
  "[" ++ ", ".intercalate (names.map quote) ++ "]"

end SuitePool.Text
