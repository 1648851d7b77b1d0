import ClassModel.Json.Print
import ClassModel.Target.Basic

/-!
# `Target.PythonModule` — the parts of a Python module and their text

A module has a header, imports and declarations. A class is a dataclass with constants of the
class and attributes; an enumeration is a class of texts.
-/

set_option autoImplicit false

namespace ClassModel
namespace PythonModule

/-- An attribute of a dataclass. An optional one may be `None`, and is unless it is given. -/
structure Attribute where
  name : String
  type : String
  required : Bool
  deriving DecidableEq, Repr

/-- The declaration of an attribute. -/
def Attribute.text (a : Attribute) : String :=
  if a.required then s!"{a.name}: {a.type}" else s!"{a.name}: {a.type} | None = None"

/-- A constant of a class and its value. -/
structure Constant where
  name : String
  value : Json
  deriving Repr

/-- The declaration of a constant. -/
def Constant.text (c : Constant) : String := s!"{c.name}: ClassVar[str] = {c.value.literal}"

/-- A dataclass. -/
structure Class where
  name : String
  parent : Option String
  constants : List Constant
  attributes : List Attribute
  deriving Repr

/-- An enumeration: its members and the texts that they stand for. -/
structure Enumeration where
  name : String
  members : List (String × String)
  deriving DecidableEq, Repr

/-- The options of all dataclasses of a module. -/
structure Options where
  keywordsOnly : Bool
  frozen : Bool
  deriving DecidableEq, Repr

/-- The decorator of a dataclass. -/
def Options.decorator (o : Options) : String :=
  match o.keywordsOnly, o.frozen with
  | true, true => "@dataclass(kw_only=True, frozen=True)"
  | true, false => "@dataclass(kw_only=True)"
  | false, true => "@dataclass(frozen=True)"
  | false, false => "@dataclass"

/-- The text of a dataclass, which ends with a line feed. -/
def Class.text (indent : String) (o : Options) (c : Class) : String :=
  let lines := c.constants.map (·.text) ++ c.attributes.map (·.text)
  o.decorator ++ "\nclass " ++ c.name ++
    (match c.parent with
      | none => ""
      | some parent => "(" ++ parent ++ ")") ++ ":\n" ++
    Target.indentedLines indent (if lines.isEmpty then ["pass"] else lines)

/-- The text of an enumeration, which ends with a line feed. -/
def Enumeration.text (indent : String) (e : Enumeration) : String :=
  "class " ++ e.name ++ "(str, Enum):\n" ++
    Target.indentedLines indent (e.members.map fun m => m.1 ++ " = " ++ Text.asciiLiteral m.2)

/-- The imports of a module. The dataclass decorator is always imported. -/
structure Imports where
  enum : Bool
  classVar : Bool
  /-- The names imported from each other module. -/
  others : List (String × List String)
  deriving DecidableEq, Repr

/-- The statement that imports names from a module. -/
def importText (i : String × List String) : String :=
  "from " ++ i.1 ++ " import " ++ ", ".intercalate i.2

/-- The lines of the imports, those of the standard library first. -/
def Imports.lines (i : Imports) : List String :=
  ["from dataclasses import dataclass"] ++
  (if i.enum then ["from enum import Enum"] else []) ++
  (if i.classVar then ["from typing import ClassVar"] else []) ++
  (if i.others.isEmpty then [] else "" :: i.others.map importText)

end PythonModule

/-- A Python module. -/
structure PythonModule where
  header : Option String
  imports : PythonModule.Imports
  options : PythonModule.Options
  enums : List PythonModule.Enumeration
  classes : List PythonModule.Class
  deriving Repr

namespace PythonModule

/-- The text of a module. Enumerations stand before the classes that use them. -/
def text (indent : String) (m : PythonModule) : String :=
  Target.headerText "#" m.header ++
  String.join (m.imports.lines.map (· ++ "\n")) ++ "\n\n" ++
  "\n\n".intercalate (m.enums.map (·.text indent) ++ m.classes.map (·.text indent m.options)) ++
  "\n"

end PythonModule
end ClassModel
