import ClassModel.Identifier.Case
import ClassModel.Identifier.Keyword
import ClassModel.Identifier.Pattern

/-!
# `Identifier.Sanitizer` — safe identifiers for arbitrary names

Any name becomes an identifier of ASCII letters, digits and low lines: other characters become low
lines, those at the ends are dropped, the rest is put in the wanted case, and a leading digit gets
a low line before it. If the result is a reserved word, it is set apart: by texts on either side,
or by a pattern.

`Memo` remembers what it has answered; it answers as the sanitizer does.
-/

set_option autoImplicit false

namespace ClassModel
namespace Identifier

/-- May an identifier hold the character? Only ASCII letters, digits and the low line. -/
def isWordChar (c : Char) : Bool := isSmallOrDigit c || isCapital c || c == '_'

/-- The name with low lines for the characters an identifier cannot hold, and none at its ends. -/
def clean (name : String) : String :=
  let cs := Text.strip '_' (name.toList.map fun c => if isWordChar c then c else '_')
  if cs.isEmpty then "field" else .ofList cs

/-- Is the character an ASCII digit? -/
def isDigit (c : Char) : Bool := '0' ≤ c && c ≤ '9'

/-- The name with a low line before it if it starts with a digit. -/
def guardDigit (name : String) : String :=
  match name.toList with
  | c :: _ => if isDigit c then "_" ++ name else name
  | [] => name

/-- The identifier for a name, before reserved words are looked at. -/
def word (name : String) (case : NameCase) : String :=
  let cleaned := clean name
  let converted := convert cleaned case
  guardDigit (if converted = "" then cleaned else converted)

/-- The identifier for a name under a pattern. What is wrong with the pattern matters only where a
reserved word has to be set apart. -/
def wordUnder (reserved : List String) (pattern : String) (name : String) (case : NameCase) :
    Except PatternFault String :=
  let w := word name case
  if reserved.contains w then Pattern.fill pattern w else .ok w

/-- Reserved words, and what sets them apart: a text before them and one after them. -/
structure Sanitizer where
  reserved : List String
  before : String := ""
  after : String := ""
  deriving Repr

namespace Sanitizer

/-- The pattern used where none is given. -/
def standardPattern : String := "\x7b\x7d_"

/-- Reserved words of Kotlin stand between backticks. -/
def kotlin : Sanitizer := ⟨kotlinKeywords, "`", "`"⟩

/-- Reserved words of Python get a low line after them. -/
def python : Sanitizer := ⟨pythonKeywords, "", "_"⟩

/-- The identifier for a name. -/
def sanitize (s : Sanitizer) (name : String) (case : NameCase) : String :=
  let w := word name case
  if s.reserved.contains w then s.before ++ w ++ s.after else w

end Sanitizer

/-! ## Remembered answers -/

/-- Answers given so far, each under its name and case. -/
abbrev Memo := List ((String × NameCase) × String)

namespace Memo

variable {ε : Type}

/-- Answers a call from memory, or else by `answer` and remembers it; a fault is not remembered. -/
def call (answer : String → NameCase → Except ε String) (m : Memo) (name : String)
    (case : NameCase) : Except ε String × Memo :=
  match m.lookup (name, case) with
  | some w => (.ok w, m)
  | none =>
    match answer name case with
    | .ok w => (.ok w, ((name, case), w) :: m)
    | .error e => (.error e, m)

/-- Answers several calls, remembering along the way. -/
def calls (answer : String → NameCase → Except ε String) : Memo → List (String × NameCase) →
    List (Except ε String)
  | _, [] => []
  | m, (name, case) :: rest =>
    let (result, m) := m.call answer name case
    result :: calls answer m rest

end Memo
end Identifier
end ClassModel
