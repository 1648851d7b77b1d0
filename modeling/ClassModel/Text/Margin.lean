import ClassModel.Text.Blank
import ClassModel.Text.Split

/-!
# `Text.Margin` — what stands before each line

Indents and comment marks are put before the lines of a text that are not blank; blank lines stay
as they are.
-/

set_option autoImplicit false

namespace ClassModel
namespace Text

/-- Blanks in a row. -/
def blanks (n : Nat) : String := .ofList (List.replicate n ' ')

/-- Why there is no row of so many blanks. -/
inductive RowFault
  /-- A number that no index reaches. -/
  | noIndex
  /-- More blanks than a memory holds. -/
  | noRoom
  deriving DecidableEq, Repr

/-- The most blanks in a row. -/
def mostBlanks : Nat := 100000000000

/-- A row of so many blanks, none for a negative number. An index has sixty-four bits, one of them
for the sign. -/
def blankRow (n : Int) : Except RowFault String :=
  if n < -9223372036854775808 ∨ 9223372036854775807 < n then .error .noIndex
  else if (mostBlanks : Int) < n then .error .noRoom
  else .ok (blanks n.toNat)

/-- The text with something put before each line that is not blank. -/
def beforeLines (margin : String) (s : String) : String :=
  unlines ((lines s).map fun l => if isBlankLine l.toList then l else margin ++ l)

/-- The text as a comment. -/
def commentLines (mark : String) (s : String) : String := beforeLines (mark ++ " ") s

end Text
end ClassModel
