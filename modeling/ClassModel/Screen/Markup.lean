import ClassModel.Screen.Picture

/-!
# `Screen.Markup` — styled text and its plain form

Text for the screen may hold tags in square brackets, which give it a style. A tag with
backslashes before it is text: every two backslashes stand for one, and an odd one takes the
tag's meaning away. A tag with a slash ends the last style of its name, or the last one of all.
`escape` makes any text safe, `plain` is what a reader sees, and `isBalanced` says whether every
tag with a slash has something to end.
-/

set_option autoImplicit false

namespace ClassModel
namespace Screen

/-- Can the character start a tag? -/
def opensTag (c : Char) : Bool := ('a' ≤ c && c ≤ 'z') || c = '#' || c = '/' || c = '@'

/-- Is the character a bracket? -/
def isBracket (c : Char) : Bool := c = '[' || c = ']'

/-- A tag at the start of a text, brackets included, and what follows it. -/
def tagAt? : List Char → Option (List Char × List Char)
  | '[' :: c :: rest =>
    match opensTag c, rest.dropWhile (!isBracket ·) with
    | true, ']' :: after => some ('[' :: c :: rest.takeWhile (!isBracket ·) ++ [']'], after)
    | _, _ => none
  | _ => none

/-- A piece of a text: a character, or a tag and the backslashes before it. -/
inductive Piece
  | char (c : Char)
  | tag (slashes : Nat) (body : List Char)
  deriving DecidableEq, Repr

/-- The number of backslashes that a text starts with. -/
def leadingSlashes (cs : List Char) : Nat := (cs.takeWhile (· = '\\')).length

/-- Cuts a text into pieces; `fuel` is at least the number of characters. -/
def piecesFrom : Nat → List Char → List Piece
  | 0, _ => []
  | _ + 1, [] => []
  | fuel + 1, c :: rest =>
    let slashes := leadingSlashes (c :: rest)
    match tagAt? ((c :: rest).drop slashes) with
    | some (body, after) => .tag slashes body :: piecesFrom fuel after
    | none => .char c :: piecesFrom fuel rest

/-- The pieces of a text. -/
def pieces (cs : List Char) : List Piece := piecesFrom cs.length cs

/-- Backslashes in a row. -/
def slashRow (n : Nat) : List Char := List.replicate n '\\'

/-- Ends the text in exactly one backslash? -/
def endsInOneSlash (cs : List Char) : Bool :=
  match cs.reverse with
  | '\\' :: '\\' :: _ => false
  | '\\' :: _ => true
  | _ => false

/-- A piece as text. -/
def Piece.escaped : Piece → List Char
  | .char c => [c]
  | .tag slashes body => slashRow (2 * slashes + 1) ++ body

/-- The text with its tags made text. -/
def withoutTags (cs : List Char) : List Char := (pieces cs).flatMap Piece.escaped

/-- The text with its tags made text, and a single backslash at its end doubled. -/
def escape (s : String) : String :=
  let cs := withoutTags s.toList
  .ofList (if endsInOneSlash cs then cs ++ ['\\'] else cs)

/-! ## What a reader sees -/

/-- The stretches of text between tags. The backslashes before a tag are one of their own, and so
is a tag that is text. -/
def stretches : List Piece → List (List Char)
  | [] => [[]]
  | .char c :: rest =>
    match stretches rest with
    | [] => [[c]]
    | s :: more => (c :: s) :: more
  | .tag slashes body :: rest =>
    [] :: slashRow (slashes / 2) :: (if slashes % 2 = 1 then body else []) :: stretches rest

/-- The text with a bracket for a bracket after a backslash. -/
def withoutSlashes : List Char → List Char
  | [] => []
  | '\\' :: '[' :: rest => '[' :: withoutSlashes rest
  | c :: rest => c :: withoutSlashes rest

/-- Control characters that the screen drops. -/
def isDropped (c : Char) : Bool :=
  c = '\x07' || c = '\x08' || c = '\x0b' || c = '\x0c' || c = '\x0d'

/-- What a reader sees of a text with tags. -/
def plain (s : Screen) (text : String) : String :=
  .ofList (((stretches (pieces text.toList)).flatMap
    fun cs => s.withPictures (withoutSlashes cs)).filter fun c => !isDropped c)

/-! ## Tags and their ends -/

/-- The name of a tag: what stands in its brackets up to an equals sign. -/
def tagName (body : List Char) : List Char := (body.drop 1).dropLast.takeWhile (· ≠ '=')

/-- The styles that are open after a tag, the last one first; none if the tag ends a style that is
not open. -/
def openAfter (s : Screen) (styles : List String) (body : List Char) : Option (List String) :=
  match tagName body with
  | '/' :: name =>
    let name := Text.trim name
    if name.isEmpty then styles.tail?
    else
      let name := s.styleName (.ofList name)
      if styles.contains name then some (styles.erase name) else none
  | name => some (s.styleName (.ofList name) :: styles)

/-- Has every tag that ends a style one to end, where these are open? -/
def isBalancedAfter (s : Screen) (styles : List String) : List Piece → Bool
  | [] => true
  | .char _ :: rest => s.isBalancedAfter styles rest
  | .tag slashes body :: rest =>
    if slashes % 2 = 1 then s.isBalancedAfter styles rest
    else
      match s.openAfter styles body with
      | some styles => s.isBalancedAfter styles rest
      | none => false

/-- Has every tag that ends a style one to end? -/
def isBalanced (s : Screen) (text : String) : Bool := s.isBalancedAfter [] (pieces text.toList)

end Screen
end ClassModel
