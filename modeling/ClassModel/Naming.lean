import ClassModel.Identifier.Case
import ClassModel.Json.Basic
import ClassModel.Misfit

/-!
# `Naming` — the names a target language uses

Three decisions: the short name of a qualifier, the name of the enumeration of a field, and how a
type is applied to parameters. A `Naming` may decide as it likes, and refuse what it is given. A
`Convention` settles all three by what separates the parts of a qualifier, by a style for
enumerations, and by a pair of brackets; the target languages have one each.
-/

set_option autoImplicit false

namespace ClassModel

/-- The naming decisions of a target language. -/
structure Naming where
  /-- The short name of a qualifier, which need not be a text. -/
  simpleName : Json → Except Misfit String
  /-- The name of the enumeration of a field. -/
  enumName : String → Except Misfit String
  /-- A type applied to parameters. -/
  parameterize : String → List String → Except Misfit String

/-- How the enumeration of a field is named. -/
inductive EnumStyle
  /-- The field's name with its first character in upper case. -/
  | capitalized
  /-- The field's name in Pascal case; if that is empty, as `capitalized`. -/
  | pascal
  deriving DecidableEq, Repr

/-- The brackets around the parameters of a type. -/
inductive Brackets
  | angle
  | square
  deriving DecidableEq, Repr

/-- A type applied to parameters in brackets. -/
def Brackets.apply (b : Brackets) (base : String) (parameters : List String) : String :=
  let inside := ", ".intercalate parameters
  match b with
  | .angle => base ++ "<" ++ inside ++ ">"
  | .square => base ++ "[" ++ inside ++ "]"

/-- The naming decisions of a language that needs no others. -/
structure Convention where
  separator : String := "."
  enumStyle : EnumStyle := .capitalized
  brackets : Brackets := .angle
  deriving DecidableEq, Repr

namespace Convention

/-- The convention where no language is chosen. -/
def standard : Convention := {}

/-- The convention of Kotlin. -/
def kotlin : Convention := {}

/-- The convention of Python. -/
def python : Convention := { enumStyle := .pascal, brackets := .square }

/-- The short name of a qualifier: what follows its last separator. -/
def simpleName (n : Convention) : Json → Except Misfit String
  | .str q =>
    if n.separator = "" then .error .separator
    else .ok (.ofList (Text.afterLast n.separator.toList q.toList))
  | _ => .error .parts

/-- The name of the enumeration of a field. -/
def enumName (n : Convention) (field : String) : String :=
  match n.enumStyle with
  | .capitalized => Identifier.capitalizeFirst field
  | .pascal =>
    let p := Identifier.toPascal field
    if p = "" then Identifier.capitalizeFirst field else p

/-- The naming that follows a convention. Only a short name can be refused. -/
def naming (n : Convention) : Naming where
  simpleName := n.simpleName
  enumName field := .ok (n.enumName field)
  parameterize base parameters := .ok (n.brackets.apply base parameters)

end Convention
end ClassModel
