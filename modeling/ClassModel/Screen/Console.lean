import ClassModel.Screen.Listing
import ClassModel.Screen.Table
import ClassModel.Screen.Tree

/-!
# `Screen.Console` — a screen as a console

A screen prints what has no tag that ends a style which is not open.
-/

set_option autoImplicit false

namespace ClassModel
namespace Screen

/-- The lines of a text with tags. -/
def messageLines (s : Screen) (text : String) : List String :=
  (wrapped s.width (s.plain text)).map (shownLine s.width)

/-- The texts that tags are looked for in. -/
def textsOf : Console.Printable → List String
  | .message text => [text]
  | .tree o => labels o
  | .table t => t.rows.flatten
  | .panel _ content => [content]
  | .code _ _ => []

/-- The lines for something whose tags are in order. -/
def linesOf (s : Screen) : Console.Printable → List String
  | .message text => s.messageLines text
  | .tree o => s.treeLines o
  | .table t => s.tableLines t
  | .panel title content => s.panelLines title content
  | .code l text => listing l s.width text

/-- The screen as a console. -/
def console (s : Screen) : Console where
  escape := escape
  print p := if (textsOf p).all s.isBalanced then some (s.linesOf p) else none

end Screen
end ClassModel
