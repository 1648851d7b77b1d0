import ClassModel.Target.Basic

/-!
# `Target.KotlinFile` — the parts of a Kotlin file and their text

A file has a header, a package, imports and declarations. A class with fields is a data class, one
without is a plain class, a union is a sealed class whose properties are abstract, and an
enumeration is an enum class.
-/

set_option autoImplicit false

namespace ClassModel
namespace KotlinFile

/-- How a property stands to the properties of the sealed classes above. -/
inductive Modifier
  | own
  | declared
  | override
  deriving DecidableEq, Repr

/-- A property of a class. -/
structure Property where
  modifier : Modifier
  name : String
  type : String
  required : Bool
  deriving DecidableEq, Repr

/-- The declaration of a property. An optional one may be `null`, and is unless it is given. -/
def Property.text (p : Property) : String :=
  let type := if p.required then p.type else p.type ++ "?"
  let standard := if p.required then "" else " = null"
  match p.modifier with
  | .declared => s!"abstract val {p.name}: {type}"
  | .override => s!"override val {p.name}: {type}{standard}"
  | .own => s!"val {p.name}: {type}{standard}"

/-- How values of a sealed class are told apart when they are read: by the literal that a property
holds. -/
structure Polymorphism where
  property : String
  subtypes : List (String × String)
  deriving DecidableEq, Repr

/-- The annotation that names the property. -/
def Polymorphism.infoText (p : Polymorphism) : String :=
  "@JsonTypeInfo(use = JsonTypeInfo.Id.NAME, include = JsonTypeInfo.As.PROPERTY, " ++
    "property = \"" ++ p.property ++ "\")"

/-- The line for a subtype. -/
def subtypeText (subtype : String × String) : String :=
  "JsonSubTypes.Type(value = " ++ subtype.1 ++ "::class, name = \"" ++ subtype.2 ++ "\")"

/-- The annotation that lists the subtypes. -/
def Polymorphism.subtypesText (indent : String) (p : Polymorphism) : String :=
  "@JsonSubTypes(\n" ++
    ",\n".intercalate (p.subtypes.map fun t => indent ++ subtypeText t) ++ "\n)"

/-- A declaration of a file. -/
inductive Declaration
  | dataClass (name : String) (parent : Option String) (properties : List Property)
  | sealedClass (name : String) (parent : Option String) (polymorphism : Option Polymorphism)
      (properties : List Property)
  | enumClass (name : String) (entries : List String)
  deriving Repr

/-- The part of a class head that names the class above. -/
def supertypeText : Option String → String
  | none => ""
  | some parent => " : " ++ parent ++ "()"

/-- The text of a declaration, which ends with a line feed. -/
def Declaration.text (indent : String) : Declaration → String
  | .dataClass name parent [] => "class " ++ name ++ supertypeText parent ++ "\n"
  | .dataClass name parent properties =>
    "data class " ++ name ++ "(\n" ++ Target.commaLines indent (properties.map (·.text)) ++
      ")" ++ supertypeText parent ++ "\n"
  | .sealedClass name parent polymorphism properties =>
    (match polymorphism with
      | none => ""
      | some p => p.infoText ++ "\n" ++ p.subtypesText indent ++ "\n") ++
    "sealed class " ++ name ++ supertypeText parent ++
    (if properties.isEmpty then "\n"
      else " \x7b\n" ++ Target.indentedLines indent (properties.map (·.text)) ++ "\x7d\n")
  | .enumClass name entries =>
    "enum class " ++ name ++ " \x7b\n" ++ Target.commaLines indent entries ++ "\x7d\n"

/-- The name that a declaration introduces. -/
def Declaration.name : Declaration → String
  | .dataClass name _ _ | .sealedClass name _ _ _ | .enumClass name _ => name

end KotlinFile

/-- A Kotlin file. -/
structure KotlinFile where
  header : Option String
  package : Option String
  imports : List String
  classes : List KotlinFile.Declaration
  enums : List KotlinFile.Declaration
  deriving Repr

namespace KotlinFile

/-- All declarations: the classes, then the enumerations. -/
def declarations (f : KotlinFile) : List Declaration := f.classes ++ f.enums

/-- The text of a file. -/
def text (indent : String) (f : KotlinFile) : String :=
  Target.headerText "//" f.header ++
  (match f.package with
    | none => ""
    | some p => "package " ++ p ++ "\n\n") ++
  String.join (f.imports.map fun i => "import " ++ i ++ "\n") ++
  (if f.imports.isEmpty then "" else "\n") ++
  "\n".intercalate (f.declarations.map (·.text indent)) ++ "\n"

end KotlinFile
end ClassModel
