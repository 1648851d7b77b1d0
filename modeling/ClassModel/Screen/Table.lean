import ClassModel.Console.Basic
import ClassModel.Screen.Markup
import ClassModel.Screen.Wrap
import ClassModel.Text.Margin

/-!
# `Screen.Table` — tables and panels

A table is as wide as its cells, with its title in the middle above it. If it is too wide for the
screen, its widest columns are narrowed, and their cells take more lines. It stands in a frame of
lines with rounded corners, or without lines. A panel is a framed text as wide as the screen.
-/

set_option autoImplicit false

namespace ClassModel
namespace Screen

/-- The line with blanks after it up to a width. -/
def padded (width : Nat) (line : List Char) : String :=
  .ofList line ++ Text.blanks (width - Text.columnsIn line)

/-- A horizontal line. -/
def rule (n : Nat) : String := .ofList (List.replicate n '─')

/-! ## Widths -/

/-- Ends the character a line that is measured? -/
def endsLine (c : Char) : Bool :=
  c = '\n' || ('\x1c' ≤ c && c ≤ '\x1e') || c = '\u0085' || c = '\u2028' || c = '\u2029'

/-- The columns of the longest line of a text. -/
def longest (s : String) : Nat :=
  (Text.splitAt '\n' (s.toList.map fun c => if endsLine c then '\n' else c)).foldl
    (fun n line => max n (Text.columnsIn line)) 0

/-- The blanks beside a cell. -/
def cellMargin : Nat := 2

/-- The width of a cell where there is room for `room` columns: its longest line and the blanks
beside it. -/
def cellWidth (room : Nat) (cell : String) : Nat := min room (longest cell + cellMargin)

/-- The width of a column with these cells. -/
def columnWidth (room : Nat) (cells : List String) : Nat :=
  cells.foldl (fun n cell => max n (cellWidth room cell)) 0

/-- A share of a total in as many parts, rounded to the nearest number, and to the even one of
two. -/
def nearestShare (total parts : Nat) : Nat :=
  let n := total / parts
  let twice := 2 * (total % parts)
  if twice < parts ∨ (twice = parts ∧ n % 2 = 0) then n else n + 1

/-- All of them together. -/
def total (ns : List Nat) : Nat := ns.foldl (· + ·) 0

/-- Takes an excess off the chosen widths in equal parts, each at most as great as its limit. -/
def takeOff (excess parts : Nat) : List (Bool × Nat × Nat) → List Nat
  | [] => []
  | (chosen, limit, width) :: rest =>
    if chosen && parts ≠ 0 then
      let n := min limit (nearestShare excess parts)
      (width - n) :: takeOff (excess - n) (parts - 1) rest
    else width :: takeOff excess parts rest

/-- Takes an excess off the chosen widths. -/
def narrowed (excess : Nat) (columns : List (Bool × Nat × Nat)) : List Nat :=
  let columns := columns.map fun (chosen, limit, width) => (chosen && limit ≠ 0, limit, width)
  takeOff excess (columns.countP (·.1)) columns

/-- Narrows the widest columns that may be, down to the next ones, as long as there is an excess;
`fuel` is at least the excess. -/
def collapse (room : Nat) (wraps : List Bool) : Nat → List Nat → List Nat
  | 0, widths => widths
  | fuel + 1, widths =>
    let excess := total widths - room
    let free : List Nat := ((widths.zip wraps).filter (·.2)).map (·.1)
    let widest := free.foldl max 0
    let next := (free.filter (· ≠ widest)).foldl max 0
    if excess = 0 ∨ free.isEmpty ∨ widest = next then widths
    else
      collapse room wraps fuel <| narrowed excess <| (widths.zip wraps).map fun (w, wrap) =>
        (wrap && w = widest, min excess (widest - next), w)

/-! ## Tables -/

/-- The rows as a reader sees them, the header among them. -/
def plainRows (s : Screen) (t : Console.Table) : List (List String) :=
  ((if t.hasHeader then [t.columns.map (·.header)] else []) ++ t.rows).map fun cells =>
    cells.map s.plain

/-- The cells of each column. -/
def cellsByColumn (s : Screen) (t : Console.Table) : List (List String) :=
  (List.range t.columns.length).map fun n => (s.plainRows t).map fun cells => cells.getD n ""

/-- The width of each column. -/
def widths (s : Screen) (t : Console.Table) : List Nat :=
  let room := s.width - (t.columns.length + 1)
  let natural := (s.cellsByColumn t).map fun cells =>
    if columnWidth room cells = 0 then 1 else columnWidth room cells
  if total natural ≤ room then natural
  else
    let collapsed := collapse room (t.columns.map (·.wraps)) (total natural) natural
    let fitted := narrowed (total collapsed - room) (collapsed.map fun w => (true, w, w))
    (fitted.zip (s.cellsByColumn t)).map fun (w, cells) => columnWidth w cells

/-- The lines of a cell in a column, without the blanks beside it. -/
def cellLines (c : Console.Column) (width : Nat) (cell : String) : List (List Char) :=
  linesWithin .dots c.wraps (width - cellMargin) cell.toList

/-- The lines of a row of cells between the given edges and dividers. A header stands at the
bottom of its row, other cells stand at the top. -/
def rowLines (t : Console.Table) (widths : List Nat) (edge divider : String) (isHeader : Bool)
    (cells : List String) : List String :=
  let blocks := ((t.columns.zip widths).zip cells).map fun ((c, w), cell) =>
    (w, (cellLines c w cell).map fun l => " " ++ padded (w - cellMargin) l ++ " ")
  let height := blocks.foldl (fun n b => max n b.2.length) 1
  (List.range height).map fun n =>
    edge ++ divider.intercalate (blocks.map fun (w, ls) =>
      let above := if isHeader then height - ls.length else 0
      if n < above then Text.blanks w else ls.getD (n - above) (Text.blanks w)) ++ edge

/-- A line of a frame. -/
def ruleText (widths : List Nat) (left divider right : String) : String :=
  left ++ divider.intercalate (widths.map rule) ++ right

/-- The lines of a title, each in the middle of a width. -/
def titleLines (s : Screen) (width : Nat) (title : String) : List String :=
  (wrapped width (s.plain title)).map fun l =>
    let l := Text.trimEnd l
    Text.blanks ((width - Text.columnsIn l) / 2) ++ .ofList l

/-- The width of a table: its columns, its edges and the dividers between columns. -/
def tableWidth (widths : List Nat) : Nat := total widths + widths.length + 1

/-- The lines of the rows between the given edges and dividers, and a line below the header. -/
def body (s : Screen) (t : Console.Table) (widths : List Nat) (edge divider below : String) :
    List String :=
  match t.hasHeader, s.plainRows t with
  | true, header :: rows =>
    rowLines t widths edge divider true header ++ below ::
      rows.flatMap (rowLines t widths edge divider false)
  | _, rows => rows.flatMap (rowLines t widths edge divider false)

/-- The lines of a table in its frame. -/
def framed (s : Screen) (t : Console.Table) (widths : List Nat) : List String :=
  match t.frame with
  | .rounded =>
    ruleText widths "╭" "┬" "╮" :: s.body t widths "│" "│" (ruleText widths "├" "┼" "┤") ++
      [ruleText widths "╰" "┴" "╯"]
  | .blank => "" :: s.body t widths " " " " "" ++ [""]

/-- The lines of a table. -/
def tableLines (s : Screen) (t : Console.Table) : List String :=
  let widths := s.widths t
  (s.titleLines (tableWidth widths) t.title ++ s.framed t widths).map
    fun l => shownLine s.width l.toList

/-! ## Panels -/

/-- The top of a panel with its title in the middle; a narrow one has no title. -/
def panelTop (s : Screen) (title : String) : String :=
  if s.width ≤ 4 then "╭" ++ rule (s.width - 2) ++ "╮"
  else
    let title := Text.cut (s.width - 4) (" " ++ s.plain title ++ " ").toList
    let spare := s.width - 4 - Text.columnsIn title
    "╭─" ++ rule (spare / 2) ++ .ofList title ++ rule (spare - spare / 2) ++ "─╮"

/-- The lines of a framed text as wide as the screen, its title in the middle of its top. -/
def panelLines (s : Screen) (title content : String) : List String :=
  ([s.panelTop title] ++
    (wrapped (s.width - 4) (s.plain content)).map
      (fun l => "│ " ++ padded (s.width - 4) l ++ " │") ++
    ["╰" ++ rule (s.width - 2) ++ "╯"]).map fun l => shownLine s.width l.toList

end Screen
end ClassModel
