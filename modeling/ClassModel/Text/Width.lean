import ClassModel.Text.Invisible
import ClassModel.Text.Picture
import ClassModel.Text.Wide

/-!
# `Text.Width` — how many columns a text takes on a console

A character takes one column, a wide one two, an invisible one none. Two marks look at the text
around them: the picture mark makes a character that has a picture form wide, and the joiner draws
the next character over the one before it.

Characters that stand together form a cluster, which is never cut in two.
-/

set_option autoImplicit false

namespace ClassModel
namespace Text

/-- The columns of a character on its own. -/
def columnsOf (c : Char) : Nat := if isInvisible c then 0 else if isWide c then 2 else 1

/-- Draws the next character over the one before it. -/
def joiner : Char := '\u200d'

/-- Asks for the picture form of the character before it. -/
def pictureMark : Char := '\ufe0f'

/-- The columns that a picture mark adds to the last character that was counted. -/
def widening (last : Option Char) : Nat := if last.any hasPicture then 1 else 0

/-- The columns of the characters after the one that was counted last. -/
def columnsAfter (last : Option Char) : List Char → Nat
  | [] => 0
  | c :: rest =>
    if c = joiner then
      match rest with
      | [] => 0
      | _ :: rest => columnsAfter last rest
    else if c = pictureMark then widening last + columnsAfter none rest
    else columnsOf c + columnsAfter (if columnsOf c = 0 then last else some c) rest

/-- The columns of characters in a row. -/
def columnsIn (cs : List Char) : Nat := columnsAfter none cs

/-- The columns of a text. -/
def columns (s : String) : Nat := columnsIn s.toList

/-! ## Clusters -/

/-- Characters that stand together, and their columns. -/
structure Cluster where
  chars : List Char
  columns : Nat
  deriving DecidableEq, Repr

/-- The cluster with more characters, which take more columns. -/
def Cluster.extend (k : Cluster) (cs : List Char) (n : Nat) : Cluster :=
  ⟨k.chars ++ cs, k.columns + n⟩

/-- The clusters of a text that goes on after a cluster and the character that was counted last. A
character without a column stands with the one before it. -/
def clustersAfter (k : Cluster) (last : Option Char) : List Char → List Cluster
  | [] => [k]
  | c :: rest =>
    if c = joiner then
      match rest with
      | [] => [k.extend [c] 0]
      | d :: rest => clustersAfter (k.extend [c, d] 0) last rest
    else if c = pictureMark then
      clustersAfter (k.extend [c] (widening last))
        (last.filter fun d => !hasPicture d) rest
    else
      match columnsOf c with
      | 0 => clustersAfter (k.extend [c] 0) last rest
      | n => k :: clustersAfter ⟨[c], n⟩ (some c) rest

/-- The clusters of a text. -/
def clusters : List Char → List Cluster
  | [] => []
  | c :: rest =>
    let n := if c = joiner ∨ c = pictureMark then 0 else columnsOf c
    clustersAfter ⟨[c], n⟩ (if n = 0 then none else some c) rest

/-- The clusters that fit into columns, with a blank for half of the next one. -/
def fitting : Nat → List Cluster → List Char
  | _, [] => []
  | n, k :: rest =>
    if n = 0 then []
    else if k.columns ≤ n then k.chars ++ fitting (n - k.columns) rest
    else [' ']

/-- The text cut at a column. -/
def cut (width : Nat) (cs : List Char) : List Char :=
  if columnsIn cs ≤ width then cs else fitting width (clusters cs)

end Text
end ClassModel
