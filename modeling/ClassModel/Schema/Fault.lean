import ClassModel.Descriptor
import ClassModel.Json.Print
import ClassModel.Misfit

/-!
# `Schema.Fault` — why a component cannot be compiled

A fault of the schema says which rule for unions or enumerations is broken and by what. The other
faults are a union's operation asked of a plain component, and a value that cannot be used.
-/

set_option autoImplicit false

namespace ClassModel

/-- A rule of schemas that is broken. -/
inductive SchemaFault
  /-- A union whose mapping lists no variant. -/
  | emptyMapping (union : String)
  /-- A walk along mappings that comes back to a name on it. -/
  | cyclicMapping (walk : List String)
  /-- A variant without its union's discriminator field. -/
  | untagged (variant : String) (field : Json)
  /-- A variant whose discriminator field does not have exactly one literal. -/
  | ambiguousTag (variant : String) (field : Json) (literals : List String)
  /-- A field that all leaves of a union declare, but in two shapes. -/
  | conflictingField (first second : ResolvedField)
  /-- An enumeration of a field whose name is taken by other literals. -/
  | conflictingEnum (field : String) (first second : EnumClass)
  deriving Repr

namespace SchemaFault

/-- The wording of a fault. -/
def message : SchemaFault → String
  | .emptyMapping union => s!"OneOf component '{union}' has an empty discriminator mapping"
  | .cyclicMapping walk => "Cyclic discriminator mapping: " ++ " -> ".intercalate walk
  | .untagged variant field =>
    s!"Variant '{variant}' does not declare discriminator field '{field.display}'"
  | .ambiguousTag variant field literals =>
    s!"Discriminator field '{field.display}' of variant '{variant}' must declare exactly one " ++
      "enum value, got " ++ Text.quotedList literals
  | .conflictingField first second =>
    s!"Common field '{second.name}' type defined differently in oneOf DTOs: " ++
      first.describe ++ " != " ++ second.describe
  | .conflictingEnum _ first second =>
    s!"Enum '{second.name}' declared with different values: " ++
      Text.quotedList first.literals ++ " and " ++ Text.quotedList second.literals

/-- The field that a fault is about. -/
def field : SchemaFault → Json
  | .emptyMapping _ | .cyclicMapping _ => .null
  | .untagged _ field | .ambiguousTag _ field _ => field
  | .conflictingField _ second => .str second.name
  | .conflictingEnum field _ _ => .str field

end SchemaFault

/-- Why a component cannot be compiled. -/
inductive CompileFault
  | schema (f : SchemaFault)
  /-- An operation of unions, asked of a component without a discriminator. -/
  | notUnion (component operation : String)
  | misfit (m : Misfit)
  deriving Repr

/-- The wording of a fault; a misfit has none. -/
def CompileFault.message : CompileFault → String
  | .schema f => f.message
  | .notUnion component operation =>
    s!"Component '{component}' is not a oneOf component, {operation} requires a discriminator"
  | .misfit _ => ""

end ClassModel
