import ClassModel.Ascending
import ClassModel.Identifier.Sanitizer
import ClassModel.Json.Print
import ClassModel.Target.KotlinFile
import ClassModel.Text.Identifier

/-!
# `Target.KotlinWriter` — from a class tree to a Kotlin file

Each class of the tree is one declaration, in the order of the tree; the enumerations follow. Only
the root says how its values are told apart. Qualifiers of packages that every file sees, and of
the file's own package, are not imported.
-/

set_option autoImplicit false

namespace ClassModel
namespace KotlinFile

/-- The packages that every Kotlin file sees. -/
def implicitPackages : List String := [
  "kotlin", "kotlin.annotation", "kotlin.collections", "kotlin.comparisons", "kotlin.io",
  "kotlin.ranges", "kotlin.sequences", "kotlin.text", "java.lang"]

/-- The qualifiers of the annotations. -/
def annotationImports : List String := [
  "com.fasterxml.jackson.annotation.JsonTypeInfo", "com.fasterxml.jackson.annotation.JsonSubTypes"]

/-- Does the root say how its values are told apart? -/
def isAnnotated (s : Settings) : Bool := (s.option "jackson_annotations" (.bool true)).isSet

/-- The package of a file: the root's qualifier, else the configured one. -/
def packageOf (s : Settings) (d : Descriptor) : Json :=
  if d.head.qualifier.isSet then d.head.qualifier else s.packageName

/-- The property of a field under a name. -/
def propertyNamed (f : ResolvedField) (name : String) : Property where
  modifier := if f.isAbstract then .declared else if f.isOverride then .override else .own
  name := name
  type := f.type
  required := f.required

/-- The property of a field. -/
def propertyOf (f : ResolvedField) : Property :=
  propertyNamed f (Identifier.Sanitizer.kotlin.sanitize f.name .asGiven)

/-- A literal as an entry of an enumeration: as it is if it is an identifier, else between
backticks. -/
def entryOf (literal : String) : String :=
  if Text.isIdentifier literal && !Identifier.kotlinKeywords.contains literal then literal
  else "`" ++ literal ++ "`"

/-- The declaration of an enumeration. -/
def enumOf (e : EnumClass) : Declaration := .enumClass e.name (e.literals.map entryOf)

/-- How the values of a union are told apart. -/
def polymorphismOf (d : Descriptor) : Polymorphism := ⟨d.discriminator.display, d.tags⟩

/-- The declaration of a class below another one, or of the root, with its properties. -/
def classWith (s : Settings) (above : Option Descriptor) (d : Descriptor)
    (properties : List Property) : Declaration :=
  let parent := Target.parentName above
  if d.isUnion then
    let annotated := above.isNone && isAnnotated s
    .sealedClass d.name parent (if annotated then some (polymorphismOf d) else none) properties
  else .dataClass d.name parent properties

/-- The declaration of a class below another one, or of the root. -/
def classOf (s : Settings) (above : Option Descriptor) (d : Descriptor) : Declaration :=
  classWith s above d (d.ownFields.map propertyOf)

/-- Does a file of the package need an import for a qualifier of another package? -/
def needsImport (package : Json) (other : String) : Bool :=
  !implicitPackages.contains other && package.text? != some other

/-- The imports of a file, in ascending order. -/
def importsOf (s : Settings) (d : Descriptor) : Except Misfit (List String) :=
  match Target.splitQualifiers d.head.imports with
  | .error m => .error m
  | .ok qualifiers =>
    let needed := qualifiers.filter fun q => needsImport (packageOf s d) q.1
    .ok (ascendingTexts (needed.map (fun q => q.1 ++ "." ++ q.2) ++
      if d.isUnion && isAnnotated s then annotationImports else []))

/-- The file of a class tree with its classes, the table of their enumerations, and its imports. -/
def fileWith (s : Settings) (d : Descriptor) (classes : List Declaration) (table : EnumTable)
    (imports : List String) : KotlinFile where
  header := Target.header? s d
  package := if (packageOf s d).isSet then some (packageOf s d).display else none
  imports := imports
  classes := classes
  enums := table.classes.map enumOf

/-- The file of a class tree. -/
def ofDescriptor (s : Settings) (d : Descriptor) : Except Target.Fault KotlinFile :=
  let placed := d.placed none
  match EnumTable.addAll [] (placed.flatMap (·.2.ownFields)) with
  | .error f => .error (.schema f)
  | .ok table =>
    match importsOf s d with
    | .error m => .error (.misfit m)
    | .ok imports => .ok (fileWith s d (placed.map fun p => classOf s p.1 p.2) table imports)

/-- The text of the file of a class tree. -/
def write (s : Settings) (d : Descriptor) : Except Target.Fault String :=
  match s.indent with
  | .error m => .error (.misfit m)
  | .ok indent => (ofDescriptor s d).map (·.text indent)

end KotlinFile
end ClassModel
