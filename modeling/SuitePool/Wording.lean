import SuitePool.Json
import SuitePool.Toml

/-!
# What the libraries say

Texts of JSON and of settings are read by libraries.  What a library says about a text or a value
that does not hold what is looked for is its own: here it may be any function of what was to be
read.

## Main definitions

* `Wording`: what the libraries say.
* `Terse.terse`: libraries of few words.
-/

namespace SuitePool

/-- **What the libraries say** about a text or a value that does not hold what is looked for.  Every
definition that passes their words on, and every theorem about it, is one for any such words. -/
class Wording where
  /-- About a line that holds no task. -/
  noTask : (line : List Char) → String
  /-- About a line with a frame that holds no reply. -/
  noReply : (line : List Char) → String
  /-- About a value that is no list of ids. -/
  noIds : Json → String
  /-- About a value that is no report. -/
  noReport : Json → String
  /-- About a text that holds no settings. -/
  noSettings : (text : String) → Toml.ReadError → String

namespace Terse

/-- Libraries of few words. -/
scoped instance terse : Wording where
  noTask _ := "expected value at line 1 column 1"
  noReply _ := "the frame holds no reply"
  noIds _ := "the value has another type"
  noReport _ := "the value has another type"
  noSettings _
    | .invalid => "TOML parse error"
    | .keyTooLong => "recursion limit\n"

end Terse

end SuitePool
