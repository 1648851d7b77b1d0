import ClassModel.Text.Blank
import ClassModel.Text.Split
import ClassModel.Text.Width

/-!
# `Screen.Wrap` — lines that fit a width

A line that is too long is broken before a word; the blanks after a word stay with it and do not
count at the end of a line. A word that is longer than a line goes on in the next one, or is cut
and ends in dots. Tabs go to the next multiple of eight columns before that.
-/

set_option autoImplicit false

namespace ClassModel
namespace Screen

/-- What becomes of a word that is longer than a line. -/
inductive Overflow
  /-- It goes on in the next line. -/
  | fold
  /-- It is cut, with dots at its end. -/
  | dots
  deriving DecidableEq, Repr

/-! ## Tabs -/

/-- The columns between tabs. -/
def tabWidth : Nat := 8

/-- Puts the parts between tabs together from a column on, with blanks for the tabs. -/
def joinParts (column : Nat) : List (List Char) → List Char
  | [] => []
  | [last] => last
  | part :: rest =>
    let part := part ++ [' ']
    let column := column + Text.columnsIn part
    let spare := (tabWidth - column % tabWidth) % tabWidth
    part ++ List.replicate spare ' ' ++ joinParts (column + spare) rest

/-- The line with blanks for its tabs. -/
def withoutTabs (line : List Char) : List Char := joinParts 0 (Text.splitAt '\t' line)

/-! ## Words -/

/-- How far a word is read. -/
inductive Reach
  | before
  | inside
  | after
  deriving DecidableEq, Repr

/-- The words of a line that goes on after some characters, which are in reverse. -/
def wordsAfter (word : List Char) (reach : Reach) : List Char → List (List Char)
  | [] => if reach = .before then [] else [word.reverse]
  | c :: rest =>
    match Text.isBlank c, reach with
    | true, .before => wordsAfter (c :: word) .before rest
    | true, _ => wordsAfter (c :: word) .after rest
    | false, .after => word.reverse :: wordsAfter [c] .inside rest
    | false, _ => wordsAfter (c :: word) .inside rest

/-- The words of a line with the blanks after them, and those before the first one. Blanks alone
are no word. -/
def wordsOf (line : List Char) : List (List Char) := wordsAfter [] .before line

/-- Cuts clusters into parts that fit a width, where one part has begun. -/
def chopAfter (width : Nat) (part : List Char) (size : Nat) :
    List Text.Cluster → List (List Char)
  | [] => [part]
  | k :: rest =>
    if width < size + k.columns then part :: chopAfter width k.chars k.columns rest
    else chopAfter width (part ++ k.chars) (size + k.columns) rest

/-- The parts of a word that fit a width. -/
def chop (width : Nat) (word : List Char) : List (List Char) :=
  chopAfter width [] 0 (Text.clusters word)

/-! ## Lines -/

/-- Lines that are being filled: the full ones in reverse, and the last one with its columns. -/
structure Filling where
  full : List (List Char) := []
  line : List Char := []
  column : Nat := 0
  deriving Repr

namespace Filling

/-- Has anything been put down? -/
def isBegun (f : Filling) : Bool := !f.full.isEmpty || !f.line.isEmpty

/-- Puts text on a new line; the first line is new as long as it is empty. -/
def onNewLine (f : Filling) (cs : List Char) : Filling :=
  ⟨if f.isBegun then f.line :: f.full else f.full, cs, Text.columnsIn cs⟩

/-- Puts a word down. -/
def put (o : Overflow) (width : Nat) (f : Filling) (word : List Char) : Filling :=
  let size := Text.columnsIn (Text.trimEnd word)
  if f.column + size ≤ width then
    { f with line := f.line ++ word, column := f.column + Text.columnsIn word }
  else if width < size ∧ o = .fold then (chop width word).foldl onNewLine f
  else f.onNewLine word

/-- All lines. -/
def lines (f : Filling) : List (List Char) := (f.line :: f.full).reverse

end Filling

/-- The line broken before words. -/
def broken (o : Overflow) (width : Nat) (line : List Char) : List (List Char) :=
  match wordsOf line with
  | [] => [line]
  | words => (words.foldl (Filling.put o width) {}).lines

/-- The line without as many blanks at its end as it has characters too many. -/
def withoutSpareBlanks (width : Nat) (line : List Char) : List Char :=
  let blanks := line.length - (Text.trimEnd line).length
  line.take (line.length - min blanks (line.length - width))

/-- The line cut at a width. -/
def cutLine (o : Overflow) (width : Nat) (line : List Char) : List Char :=
  if Text.columnsIn line ≤ width then line
  else
    match o with
    | .fold => Text.cut width line
    | .dots => Text.cut (width - 1) line ++ ['…']

/-- The lines of a text in a width, broken if they may be. Without a width there are none. -/
def linesWithin (o : Overflow) (wraps : Bool) (width : Nat) (text : List Char) :
    List (List Char) :=
  if width = 0 then []
  else
    (Text.splitAt '\n' text).flatMap fun line =>
      let line := withoutTabs line
      (if wraps then broken o width line else [line]).map fun l =>
        cutLine o width (withoutSpareBlanks width l)

/-- The lines of a text in a width. -/
def wrapped (width : Nat) (s : String) : List (List Char) := linesWithin .fold true width s.toList

/-- A line as a screen shows it: cut at its width, without white space at its end. -/
def shownLine (width : Nat) (line : List Char) : String :=
  .ofList (Text.trimEnd (Text.cut width line))

end Screen
end ClassModel
