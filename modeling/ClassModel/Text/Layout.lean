import ClassModel.Text.Digit

/-!
# `Text.Layout` — a text in a field of some width

A layout says how wide a text has to be at least, where it stands in that width, what fills the
rest, and how much of it is shown at most. It is written as `*>8.3`: a filler and a place, a width,
and a bound after a dot, all of which may be left out. A zero before the width makes zeros the
filler.
-/

set_option autoImplicit false

namespace ClassModel
namespace Text

/-- Where a text stands in its field. -/
inductive Place
  | left
  | middle
  | right
  deriving DecidableEq, Repr

/-- How a text is laid out. -/
structure Layout where
  filler : Char := ' '
  place : Place := .left
  width : Nat := 0
  /-- The number of characters that are shown at most. -/
  most : Option Nat := none
  deriving DecidableEq, Repr

namespace Layout

/-- The greatest number that a layout may hold. -/
def greatest : Nat := 9223372036854775807

/-- Reads digits up to the first other character; none for a number that is too great. -/
def readNumber (n : Nat) : List Char → Option (Nat × List Char)
  | [] => some (n, [])
  | c :: rest =>
    match digitValue? c with
    | none => some (n, c :: rest)
    | some d => if greatest < n * 10 + d then none else readNumber (n * 10 + d) rest

/-- The place that a sign stands for. -/
def placeOf? : Char → Option Place
  | '<' => some .left
  | '^' => some .middle
  | '>' => some .right
  | _ => none

/-- Reads a filler and a place. -/
def readPlace : List Char → Layout × Bool × List Char
  | c :: d :: rest =>
    match placeOf? d, placeOf? c with
    | some p, _ => ({ filler := c, place := p }, true, rest)
    | none, some p => ({ place := p }, false, d :: rest)
    | none, none => ({}, false, c :: d :: rest)
  | [c] =>
    match placeOf? c with
    | some p => ({ place := p }, false, [])
    | none => ({}, false, [c])
  | [] => ({}, false, [])

/-- Reads a bound and the end: an `s` may stand there. -/
def readEnd (l : Layout) (cs : List Char) : Option Layout :=
  let ending (l : Layout) (cs : List Char) : Option Layout :=
    if cs = [] ∨ cs = ['s'] then some l else none
  match cs with
  | '.' :: c :: rest =>
    if isDecimal c then
      match readNumber 0 (c :: rest) with
      | some (most, rest) => ending { l with most := some most } rest
      | none => none
    else none
  | cs => ending l cs

/-- The layout that a text describes. -/
def ofText? (cs : List Char) : Option Layout :=
  let (l, filled, rest) := readPlace cs
  let (l, rest) := match filled, rest with
    | false, '0' :: rest => ({ l with filler := '0' }, rest)
    | _, rest => (l, rest)
  match readNumber 0 rest with
  | some (width, rest) => readEnd { l with width := width } rest
  | none => none

/-- A text in its field. -/
def apply (l : Layout) (cs : List Char) : List Char :=
  let shown := l.most.elim cs cs.take
  let spare := l.width - shown.length
  let fill (n : Nat) : List Char := List.replicate n l.filler
  match l.place with
  | .left => shown ++ fill spare
  | .right => fill spare ++ shown
  | .middle => fill (spare / 2) ++ shown ++ fill (spare - spare / 2)

end Layout
end Text
end ClassModel
