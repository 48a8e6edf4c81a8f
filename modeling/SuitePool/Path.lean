import SuitePool.Text.Split
import SuitePool.Text.Utf8

/-!
# Paths

A path is a byte string cut at slashes.  Empty segments and single dots say nothing, except that a
leading slash makes the path absolute and a leading dot stands for the working directory; two dots
stay as they are.  Paths are compared, stripped and shortened by components, but their text is kept
as it was given.

## Main definitions

* `Path`, `Path.text`
* `Path.Component`, `Path.components`
* `Path.join`, `Path.parent?`, `Path.fileName?`, `Path.extension?`
-/

namespace SuitePool

open Text

def slash : UInt8 := 47

def fullStop : UInt8 := 46

/-- A path, as its bytes. -/
structure Path where
  bytes : Bytes
  deriving DecidableEq

namespace Path

/-- The path that a text denotes. -/
def ofString (s : String) : Path := ⟨utf8 s⟩

/-- The text a path is shown as. -/
def text (p : Path) : String := showBytes p.bytes

/-- Does the path start with a slash? -/
def isAbsolute (p : Path) : Bool := p.bytes.head? == some slash

/-! ## Components -/

/-- A component of a path. -/
inductive Component where
  | root
  /-- The working directory, at the start of a path. -/
  | here
  /-- The parent directory. -/
  | up
  | name (n : Bytes)
  deriving DecidableEq

def Component.bytes : Component → Bytes
  | .root => [slash]
  | .here => [fullStop]
  | .up => [fullStop, fullStop]
  | .name n => n

/-- The component that a segment stands for, if it says anything. -/
def segment? (s : Bytes) : Option Component :=
  if s = [] ∨ s = [fullStop] then none
  else if s = [fullStop, fullStop] then some .up
  else some (.name s)

/-- A path as what it starts from, and the segments behind that. -/
structure Layout where
  origin : Option Component
  body : List Bytes

/-- The layout of a path. -/
def layout (p : Path) : Layout :=
  match parts slash p.bytes with
  | [] => ⟨none, []⟩
  | first :: rest =>
    if p.isAbsolute then ⟨some .root, rest⟩
    else if first = [fullStop] then ⟨some .here, rest⟩
    else ⟨none, first :: rest⟩

/-- **The components of a path.** -/
def components (p : Path) : List Component :=
  p.layout.origin.toList ++ p.layout.body.filterMap segment?

/-- The path with a layout. -/
def ofLayout (l : Layout) : Path :=
  match l.origin with
  | none => ⟨joinWith slash l.body⟩
  | some .root => ⟨slash :: joinWith slash l.body⟩
  | some c => if l.body = [] then ⟨c.bytes⟩ else ⟨c.bytes ++ slash :: joinWith slash l.body⟩

/-- Segments without those at the end that say nothing. -/
def dropSilent (segments : List Bytes) : List Bytes :=
  (segments.reverse.dropWhile fun s => (segment? s).isNone).reverse

/-! ## Parts of a path -/

/-- The path without its last component; nothing if there is none to leave out. -/
def parent? (p : Path) : Option Path :=
  let l := p.layout
  match dropSilent l.body with
  | [] => if l.origin = some .here then some ⟨[]⟩ else none
  | s :: more => some (ofLayout ⟨l.origin, dropSilent (s :: more).dropLast⟩)

/-- The last component, if it is a name. -/
def fileName? (p : Path) : Option Bytes :=
  match p.components.getLast? with
  | some (.name n) => some n
  | _ => none

/-- A name cut at its last full stop, unless nothing precedes that. -/
def splitExtension (n : Bytes) : Option (Bytes × Bytes) :=
  match splitLast fullStop n with
  | some ([], _) => none
  | found => found

/-- What follows the last full stop of the file name. -/
def extension? (p : Path) : Option Bytes := do
  let n ← p.fileName?
  let (_, extension) ← splitExtension n
  some extension

/-- One path inside another: an absolute path replaces the other one. -/
def join (p q : Path) : Path :=
  if q.isAbsolute then q
  else if p.bytes = [] ∨ p.bytes.getLast? = some slash then ⟨p.bytes ++ q.bytes⟩
  else ⟨p.bytes ++ slash :: q.bytes⟩

def workingDirectory : Path := ⟨[fullStop]⟩

end Path

end SuitePool
