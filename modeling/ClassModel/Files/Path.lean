import ClassModel.Text.Split

/-!
# `Files.Path` — paths

A path is its root and its parts. Repeated slashes and single dots say nothing and are dropped;
two dots stay, because what they mean depends on the files.
-/

set_option autoImplicit false

namespace ClassModel
namespace Files

/-- A path: the slashes of its root (none, one or two) and its parts. -/
structure Path where
  root : String
  parts : List String
  deriving DecidableEq, Repr

namespace Path

/-- The path that a text names. -/
def ofText (s : String) : Path :=
  let slashes := (s.toList.takeWhile (· = '/')).length
  { root := if slashes = 0 then "" else if slashes = 2 then "//" else "/"
    parts := ((Text.splitAt '/' s.toList).map String.ofList).filter fun p => p ≠ "" ∧ p ≠ "." }

/-- The text of a path; an empty one is a dot. -/
def text (p : Path) : String :=
  let t := p.root ++ "/".intercalate p.parts
  if t = "" then "." else t

/-- The last part. -/
def name (p : Path) : String := p.parts.getLast?.getD ""

/-- The path without its last part. -/
def parent (p : Path) : Path := { p with parts := p.parts.dropLast }

/-- The part of the name from its last dot on, unless that dot starts or ends the name. -/
def suffix (p : Path) : String :=
  match Text.splitLast? ['.'] p.name.toList with
  | some (before, after) =>
    if before.isEmpty ∨ after.isEmpty then "" else .ofList ('.' :: after)
  | none => ""

/-- Can no file have this path? -/
def isImpossible (p : Path) : Bool := p.parts.any fun s => Text.holds s '\x00'

/-- The bytes that a name may have. -/
def longestName : Nat := 255

/-- The bytes that a path may have. -/
def longestPath : Nat := 4095

/-- Is the name too long for a file? -/
def isLongName (name : String) : Bool := longestName < name.utf8ByteSize

/-- Is the path too long for any file? -/
def isLong (p : Path) : Bool := longestPath < p.text.utf8ByteSize

end Path
end Files
end ClassModel
