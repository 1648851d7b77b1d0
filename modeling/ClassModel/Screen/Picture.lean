import ClassModel.Screen.Basic

/-!
# `Screen.Picture` — pictures by name

A name between colons stands for a picture. A hyphen and `emoji` or `text` after the name ask for
the picture or for the text form. A name that is unknown stays as it is, colons included; what
follows its second colon is looked at on its own.
-/

set_option autoImplicit false

namespace ClassModel
namespace Screen

/-- The text without an ending, if it has the ending. -/
def withoutEnding? (ending cs : List Char) : Option (List Char) :=
  if ending.isSuffixOf cs then some (cs.take (cs.length - ending.length)) else none

/-- The name between two colons, and the mark for the form that is asked for. -/
def formOf (inside : List Char) : List Char × List Char :=
  match withoutEnding? "-emoji".toList inside, withoutEnding? "-text".toList inside with
  | some name, _ => (name, ['\ufe0f'])
  | none, some name => (name, ['\ufe0e'])
  | none, none => (inside, [])

/-- What the text between two colons stands for, colons included. -/
def namedPicture (s : Screen) (inside : List Char) : List Char :=
  let (name, mark) := formOf inside
  match s.picture? (Text.lower (.ofList name)) with
  | some picture => picture.toList ++ mark
  | none => ':' :: inside ++ [':']

/-- Puts pictures for their names; `fuel` is at least the number of characters. -/
def withPicturesFrom (s : Screen) : Nat → List Char → List Char
  | 0, _ => []
  | _ + 1, [] => []
  | fuel + 1, c :: rest =>
    let inside := rest.takeWhile fun d => d ≠ ':' && !Text.isBlank d
    match c, rest.drop inside.length with
    | ':', ':' :: after => s.namedPicture inside ++ s.withPicturesFrom fuel after
    | c, _ => c :: s.withPicturesFrom fuel rest

/-- The text with pictures for their names. -/
def withPictures (s : Screen) (cs : List Char) : List Char := s.withPicturesFrom cs.length cs

end Screen
end ClassModel
