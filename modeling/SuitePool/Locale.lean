import SuitePool.Decimal.Digits
import SuitePool.Environment
import SuitePool.Report
import SuitePool.Text.Split

/-!
# Messages in two languages

Messages are written in English or Chinese.  A language is asked for by a tag such as `zh-CN`.  Two
rules lead from a tag to a language: for the messages of a whole run, the tag itself or the part
before its first hyphen has to be a known tag; where a tag is given for one message only, hyphenated
parts are dropped from its end until it is known.  English is used where nothing fits.

## Main definitions

* `Locale`, `Locale.ofTag`, `Locale.nearest`
* `Locale.system?`: the tag that the environment asks for.
* `Locale.choose`
* `Message`, `Locale.say`
-/

namespace SuitePool

open Text Decimal

/-- A language of messages. -/
inductive Locale where
  | english
  /-- Chinese, in simplified characters. -/
  | chinese
  deriving DecidableEq

namespace Locale

/-! ## Tags -/

def tag : Locale → String
  | english => "en"
  | chinese => "zh-CN"

/-- The language that has exactly this tag. -/
def known? (tag : List Char) : Option Locale :=
  [english, chinese].find? fun l => l.tag.toList == tag

/-- **The language for a whole run**: that of the tag, or of the part before its first hyphen. -/
def ofTag (tag : String) : Locale :=
  let cs := tag.toList
  (known? cs <|> known? (cs.takeWhile (· != '-'))).getD english

/-- The first known tag among the whole list of hyphenated parts and its beginnings, the longest
first; the parts come last first. -/
def nearestBeginning : List (List Char) → Option Locale
  | [] => none
  | part :: parts => known? (joinWith '-' (part :: parts).reverse) <|> nearestBeginning parts

/-- **The language for one message**: parts are dropped from the end of the tag until it is
known. -/
def nearest (tag : String) : Locale :=
  (nearestBeginning (parts '-' tag.toList).reverse).getD english

/-! ## The environment -/

/-- A variable's value as a tag: without encoding and modifier, with hyphens for underscores. -/
def tagOfVariable (value : List Char) : String :=
  String.ofList ((value.takeWhile fun c => c != '.' && c != '@').map
    fun c => if c = '_' then '-' else c)

/-- The value of a variable that is set and not empty. -/
def nonempty? (env : Environment) (name : String) : Option (List Char) :=
  match env.get? name with
  | some value => if value.isEmpty then none else some value.toList
  | none => none

/-- The tag that the environment asks for.  The first of four variables counts that is not empty;
the first one of them may hold several values, separated by colons. -/
def system? (env : Environment) : Option String :=
  let value :=
    (nonempty? env "LANGUAGE").map (·.takeWhile (· != ':'))
      <|> nonempty? env "LC_ALL" <|> nonempty? env "LC_MESSAGES" <|> nonempty? env "LANG"
  value.map tagOfVariable

/-- **The language of a run**, for the tag that is preferred or else the environment's. -/
def choose (preferred : Option String) (env : Environment) : Locale :=
  match preferred <|> system? env with
  | some tag => ofTag tag
  | none => english

end Locale

/-! ## Messages -/

/-- What a run may have to say. -/
inductive Message where
  /-- The label of a reason. -/
  | reason (r : Reason)
  /-- How many cases were run, and in how many seconds. -/
  | summary (count : Nat) (seconds : String)
  /-- The heading of the list of problems. -/
  | problemCount (count : Nat)
  /-- Cases are run in worker processes. -/
  | runningForked (workers : Nat)
  /-- Cases are run in this process. -/
  | runningHere
  /-- Nothing went wrong. -/
  | allPassed
  /-- Something went wrong. -/
  | testsFailed (failures errors : Nat)
  /-- The settings cannot be loaded. -/
  | settingsNotLoaded

namespace Message

def english : Message → String
  | reason .failed => "Failed"
  | reason .setUp => "Set-up error"
  | reason .tearDown => "Tear-down error"
  | reason .panicked => "Panicked"
  | summary count seconds => "Ran " ++ text count ++ " tests in " ++ seconds ++ "s"
  | problemCount count => "FAILURES (" ++ text count ++ ")"
  | runningForked workers => "Running tests on up to " ++ text workers ++ " worker processes"
  | runningHere => "Running tests in this process"
  | allPassed => "All tests passed"
  | testsFailed failures errors =>
    "Tests failed: " ++ text failures ++ " failures, " ++ text errors ++ " errors"
  | settingsNotLoaded => "Failed to load the configuration"

def chinese : Message → String
  | reason .failed => "失败"
  | reason .setUp => "初始化错误"
  | reason .tearDown => "清理错误"
  | reason .panicked => "发生 panic"
  | summary count seconds => "在 " ++ seconds ++ " 秒内运行了 " ++ text count ++ " 个测试"
  | problemCount count => "失败 (" ++ text count ++ ")"
  | runningForked workers => "在最多 " ++ text workers ++ " 个工作进程上运行测试"
  | runningHere => "在当前进程中运行测试"
  | allPassed => "所有测试均已通过"
  | testsFailed failures errors =>
    "测试失败：" ++ text failures ++ " 个失败，" ++ text errors ++ " 个错误"
  | settingsNotLoaded => "加载配置失败"

end Message

/-- A message in a language. -/
def Locale.say : Locale → Message → String
  | .english, m => m.english
  | .chinese, m => m.chinese

end SuitePool
