import ClassModel.Console.Basic
import ClassModel.Screen.Markup
import ClassModel.Screen.Wrap

/-!
# `Screen.Tree` — trees of labels

A tree of labels is shown by guides before its labels; a label that is too long takes more lines.
-/

set_option autoImplicit false

namespace ClassModel
namespace Screen

/-- The columns of a guide. -/
def guideWidth : Nat := 4

/-- The lines of a label in a width: the first after `first`, the others after `rest`. -/
def labelLines (s : Screen) (width : Nat) (first rest label : String) : List String :=
  match wrapped width (s.plain label) with
  | [] => []
  | l :: ls => (first ++ .ofList l) :: ls.map fun l => rest ++ .ofList l

mutual

/-- The lines of a tree, with a width for its label: the label after `first`, all that follows
after `rest`. -/
def linesAfter (s : Screen) (width : Nat) (first rest : String) : Console.Outline → List String
  | .node label children =>
    s.labelLines width first rest label ++ s.childLines (width - guideWidth) rest children

/-- The lines of the trees below a label. -/
def childLines (s : Screen) (width : Nat) (before : String) : List Console.Outline → List String
  | [] => []
  | [last] => s.linesAfter width (before ++ "└── ") (before ++ "    ") last
  | child :: more =>
    s.linesAfter width (before ++ "├── ") (before ++ "│   ") child ++ s.childLines width before more

end

/-- The lines of a tree. -/
def treeLines (s : Screen) (o : Console.Outline) : List String :=
  (s.linesAfter s.width "" "" o).map fun l => shownLine s.width l.toList

mutual

/-- All labels of a tree. -/
def labels : Console.Outline → List String
  | .node label children => label :: labelsIn children

/-- All labels of trees. -/
def labelsIn : List Console.Outline → List String
  | [] => []
  | o :: rest => labels o ++ labelsIn rest

end

end Screen
end ClassModel
