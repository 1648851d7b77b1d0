import ClassModel.Language

/-!
# `Console.Basic` — what a console is given to print

A console prints messages, trees of labels, tables, panels and code. All texts but code may hold
tags in square brackets, which give them a style, so a text of unknown origin is made safe first.
How a console does both is its own matter, and a parameter here.
-/

set_option autoImplicit false

namespace ClassModel
namespace Console

/-! ## Tags -/

/-- A style that a text can have. -/
inductive Style
  | red
  | yellow
  | green
  | cyan
  | dim
  | bold
  | boldGreen
  | boldMagenta
  deriving DecidableEq, Repr

namespace Style

/-- The name of a style in a tag. -/
def name : Style → String
  | .red => "red"
  | .yellow => "yellow"
  | .green => "green"
  | .cyan => "cyan"
  | .dim => "dim"
  | .bold => "bold"
  | .boldGreen => "bold green"
  | .boldMagenta => "bold magenta"

/-- The tag that opens a style. -/
def opening (st : Style) : String := "[" ++ st.name ++ "]"

/-- The tag that closes a style. -/
def closing (st : Style) : String := "[/" ++ st.name ++ "]"

/-- A text in a style. -/
def text (st : Style) (s : String) : String := st.opening ++ s ++ st.closing

end Style

/-! ## What is printed -/

/-- A tree of labels with tags. -/
inductive Outline
  | node (label : String) (children : List Outline)
  deriving Repr

namespace Outline

/-- The label of a tree. -/
def label : Outline → String
  | .node label _ => label

/-- The trees below a label. -/
def children : Outline → List Outline
  | .node _ children => children

/-- The tree with something after its label. -/
def suffixed (s : String) : Outline → Outline
  | .node label children => .node (label ++ s) children

end Outline

/-- A column of a table. -/
structure Column where
  header : String := ""
  /-- May its cells take more than one line? -/
  wraps : Bool := true
  deriving DecidableEq, Repr

/-- What stands around the rows of a table. -/
inductive Frame
  /-- Lines with rounded corners. -/
  | rounded
  /-- Blanks. -/
  | blank
  deriving DecidableEq, Repr

/-- A table of texts with tags. -/
structure Table where
  title : String
  frame : Frame
  columns : List Column
  hasHeader : Bool := false
  rows : List (List String)
  deriving Repr

/-- What a console can print. -/
inductive Printable
  /-- A text with tags. -/
  | message (text : String)
  | tree (o : Outline)
  | table (t : Table)
  /-- A framed text with a title. -/
  | panel (title content : String)
  /-- Source code, without tags. -/
  | code (language : Language) (text : String)
  deriving Repr

end Console

/-- A console. -/
structure Console where
  /-- The text with its tags made text. -/
  escape : String → String
  /-- The lines that printing adds; none if the console cannot make sense of the tags. -/
  print : Console.Printable → Option (List String)

end ClassModel
