import ClassModel.Text.Blank
import ClassModel.Text.CaseMap

/-!
# `Screen.Basic` — a console of a fixed width

A screen is the console that the command prints on. It has a width, pictures that can be asked for
by their names, and styles that may have more than one name.
-/

set_option autoImplicit false

namespace ClassModel

/-- A screen. -/
structure Screen where
  width : Nat := 80
  /-- The picture of a name in lower case. -/
  picture? : String → Option String := fun _ => none
  /-- The one name that stands for all the names of a style. -/
  styleName : String → String := fun name => Text.lower (.ofList (Text.trim name.toList))

end ClassModel
