import ClassModel.Text.CaseMap
import ClassModel.Text.Split

/-!
# `Identifier.Case` — the cases of a name

Snake case is the normal form: hyphens become low lines, a hump between a small letter or a digit
and a capital becomes a low line, everything is in lower case, and low lines stand alone and
inside. Camel and Pascal case are read off the words of the snake case.
-/

set_option autoImplicit false

namespace ClassModel
namespace Identifier

/-- The cases a name can be written in. -/
inductive NameCase
  | snake
  | camel
  | pascal
  | screamingSnake
  /-- As the name is given. -/
  | asGiven
  deriving DecidableEq, Repr

/-- Is the character an ASCII capital? -/
def isCapital (c : Char) : Bool := 'A' ≤ c && c ≤ 'Z'

/-- Is the character a small ASCII letter or an ASCII digit? -/
def isSmallOrDigit (c : Char) : Bool := ('a' ≤ c && c ≤ 'z') || ('0' ≤ c && c ≤ '9')

/-- Hyphens as low lines. -/
def unhyphen (cs : List Char) : List Char := cs.map fun c => if c = '-' then '_' else c

/-- A low line before each capital that follows a small letter or a digit. -/
def splitHumps : List Char → List Char
  | [] => []
  | [c] => [c]
  | c :: d :: rest =>
    if isSmallOrDigit c && isCapital d then c :: '_' :: splitHumps (d :: rest)
    else c :: splitHumps (d :: rest)

/-- A low line for each run of them. -/
def collapse : List Char → List Char
  | [] => []
  | [c] => [c]
  | c :: d :: rest =>
    if c = '_' ∧ d = '_' then collapse (d :: rest) else c :: collapse (d :: rest)

/-- Snake case, given how a text is put in lower case. -/
def snakeWith (lower : List Char → List Char) (cs : List Char) : List Char :=
  Text.strip '_' (collapse (lower (splitHumps (unhyphen cs))))

/-- The characters of a name in snake case. -/
def snakeChars (cs : List Char) : List Char := snakeWith Text.lowerChars cs

/-- The words of a name: the parts of its snake case. -/
def wordsOf (cs : List Char) : List (List Char) := Text.splitAt '_' (snakeChars cs)

/-- The name in snake case. -/
def toSnake (name : String) : String := .ofList (snakeChars name.toList)

/-- The name in camel case: capitals start all words but the first. -/
def toCamel (name : String) : String :=
  match wordsOf name.toList with
  | [] => ""
  | first :: rest => .ofList (first ++ rest.flatMap Text.capitalizeChars)

/-- The name in Pascal case: capitals start all words. -/
def toPascal (name : String) : String :=
  .ofList ((wordsOf name.toList).flatMap Text.capitalizeChars)

/-- The name in a case. -/
def convert (name : String) : NameCase → String
  | .snake => toSnake name
  | .camel => toCamel name
  | .pascal => toPascal name
  | .screamingSnake => Text.upper (toSnake name)
  | .asGiven => name

/-- The name with its first character in upper case. -/
def capitalizeFirst (name : String) : String :=
  match name.toList with
  | [] => ""
  | c :: rest => .ofList (Text.upperChar c ++ rest)

end Identifier
end ClassModel
