/-!
# Environments

The variables of a process are a list of entries of the form `name=value`.  A look-up compares what
is asked for, and an equals sign behind it, with the start of an entry; so a name that holds an
equals sign itself reaches into the value of a variable.

## Main definitions

* `Environment`, `Environment.get?`
-/

namespace SuitePool

/-- The variables of an environment, each with its value. -/
abbrev Environment := List (String × String)

namespace Environment

/-- What follows the start of a list, if it has that start. -/
def after? : (start cs : List Char) → Option (List Char)
  | [], cs => some cs
  | _, [] => none
  | s :: start, c :: cs => if s = c then after? start cs else none

/-- The entry of a variable. -/
def entry (v : String × String) : List Char := v.1.toList ++ '=' :: v.2.toList

/-- **The value of a variable.**  Nothing is called by the empty name. -/
def get? (env : Environment) (name : String) : Option String :=
  if name.isEmpty then none
  else (env.findSome? fun v => after? (name.toList ++ ['=']) (entry v)).map String.ofList

end Environment

end SuitePool
