import ClassModel.Screen.Markup
import ClassModel.Screen.Wrap
import ClassModel.Language
import ClassModel.Text.Identifier

/-!
# `Screen.Listing` — source code on a screen

Each line is cut at the width of the screen. The code is coloured, and every coloured part of a
line is measured on its own: comments, words, and the texts between quotes are parts, and so is any
other character. So the marks that look at the text around them do not look beyond a part.
-/

set_option autoImplicit false

namespace ClassModel
namespace Screen

/-- The text with blanks up to the next multiple of `width` characters for each tab. -/
def expandTabs (width : Nat) : Nat → List Char → List Char
  | _, [] => []
  | column, '\t' :: rest =>
    let n := width - column % width
    List.replicate n ' ' ++ expandTabs width (column + n) rest
  | column, c :: rest => c :: expandTabs width (if c = '\n' ∨ c = '\r' then 0 else column + 1) rest

/-- What starts a comment in a language. -/
def commentMark : Language → List Char
  | .kotlin => ['/', '/']
  | .python => ['#']

/-- The words of a language after which a whole path is one part. -/
def pathWords : Language → List (List Char)
  | .kotlin => ["package".toList, "import".toList]
  | .python => []

/-- Does the character go on a word? -/
def continuesWord (l : Language) (c : Char) : Bool :=
  Text.isIdentifierContinue c || (l == .kotlin && c == Text.joiner)

/-- The part of a line that starts it, where `isPath` says whether a path is due. It takes at
least one character. -/
def firstPart (l : Language) (isPath : Bool) (c : Char) (rest : List Char) : List Char :=
  if (commentMark l).isPrefixOf (c :: rest) then c :: rest
  else if isPath && !Text.isBlank c then c :: rest.takeWhile fun d => !Text.isBlank d
  else if Text.isIdentifierStart c then c :: rest.takeWhile (continuesWord l)
  else [c]

/-- The part between quotes that a text starts with: all up to a quote or a backslash. -/
def quotedPart (cs : List Char) : List Char := cs.takeWhile fun c => c ≠ '"' && c ≠ '\\'

/-- Where a line is read: outside quotes, perhaps with a path due, or inside them. -/
inductive Place
  | code (isPath : Bool)
  | quoted
  deriving DecidableEq, Repr

/-- The parts of a line; `fuel` is at least the number of characters. -/
def partsFrom (l : Language) : Nat → Place → List Char → List (List Char)
  | 0, _, _ => []
  | _ + 1, _, [] => []
  | fuel + 1, .code isPath, c :: rest =>
    if c = '"' then [c] :: partsFrom l fuel .quoted rest
    else
      let part := firstPart l isPath c rest
      let isPath := (pathWords l).contains part || (isPath && Text.isBlankLine part)
      part :: partsFrom l fuel (.code isPath) ((c :: rest).drop part.length)
  | fuel + 1, .quoted, c :: rest =>
    if c = '"' then [c] :: partsFrom l fuel (.code false) rest
    else if c = '\\' then
      ((c :: rest).take 2) :: partsFrom l fuel .quoted ((c :: rest).drop 2)
    else
      let part := quotedPart (c :: rest)
      part :: partsFrom l fuel .quoted ((c :: rest).drop part.length)

/-- The parts of a line that are coloured on their own. -/
def partsOf (l : Language) (line : List Char) : List (List Char) :=
  partsFrom l line.length (.code false) line

/-- The parts that fit a width; the last of them is cut. -/
def cutParts : Nat → List (List Char) → List Char
  | _, [] => []
  | width, part :: rest =>
    if Text.columnsIn part < width then part ++ cutParts (width - Text.columnsIn part) rest
    else Text.cut width part

/-- A line cut at a width. -/
def cutCode (l : Language) (width : Nat) (line : List Char) : List Char :=
  let parts := partsOf l (Text.cut width line)
  if parts.foldl (fun n part => n + Text.columnsIn part) 0 ≤ width then parts.flatten
  else cutParts width parts

/-- The lines of source code, cut at the width of the screen. -/
def listing (l : Language) (width : Nat) (code : String) : List String :=
  let cs := (Text.unifyNewlines (expandTabs 4 0 code.toList)).filter fun c => !isDropped c
  (Text.splitAt '\n' cs).map fun line => .ofList (Text.trimEnd (cutCode l width line))

end Screen
end ClassModel
