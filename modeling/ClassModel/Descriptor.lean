import ClassModel.Json.Basic
import ClassModel.Text.Escape

/-!
# `Descriptor` — the classes of a compiled component

A compiled component is a tree of classes: a single class with its fields, or a union with the
fields that all its leaves share and with a subclass per variant. Names of types are final, so a
target language only writes them down.
-/

set_option autoImplicit false

namespace ClassModel

/-- An enumeration made of the literals of a field. -/
structure EnumClass where
  name : String
  literals : List String
  deriving DecidableEq, Repr

/-- A field with the text of its type. A common field of a union is abstract; a field that some
enclosing union declares is an override. -/
structure ResolvedField where
  name : String
  type : String
  enum : Option EnumClass := none
  required : Bool := false
  isAbstract : Bool := false
  isOverride : Bool := false
  deriving DecidableEq, Repr

/-- What two declarations of a common field must agree on. -/
structure Shape where
  type : String
  enum : Option EnumClass
  required : Bool
  deriving DecidableEq, Repr

namespace ResolvedField

/-- The shape of a field. -/
def shape (f : ResolvedField) : Shape := ⟨f.type, f.enum, f.required⟩

/-- The field's name and shape, as messages show them. -/
def describe (f : ResolvedField) : String :=
  f.name ++ ": " ++ f.type ++
    (match f.enum with
      | none => ""
      | some e => " (enum " ++ e.name ++ Text.quotedList e.literals ++ ")") ++
    (if f.required then " required" else " optional")

end ResolvedField

/-- What all classes have: a name, a qualifier, and the qualifiers they import. -/
structure ClassHead where
  name : String
  qualifier : Json
  imports : List Json
  deriving Repr

/-- A compiled component. The tags of a union give each leaf below it, at any depth, the literal
that stands for it. -/
inductive Descriptor
  | single (head : ClassHead) (fields : List ResolvedField)
  | union (head : ClassHead) (discriminator : Json) (common : List ResolvedField)
      (tags : Entries String) (subclasses : List Descriptor)
  deriving Repr

namespace Descriptor

/-- The head of a class. -/
def head : Descriptor → ClassHead
  | .single head _ => head
  | .union head _ _ _ _ => head

/-- The name of a class. -/
def name (d : Descriptor) : String := d.head.name

/-- Is the class a union? -/
def isUnion : Descriptor → Bool
  | .single _ _ => false
  | .union _ _ _ _ _ => true

/-- The fields that a class lists itself: those of a single class, the common ones of a union. -/
def ownFields : Descriptor → List ResolvedField
  | .single _ fields => fields
  | .union _ _ common _ _ => common

/-- The field that tells the leaves of a union apart; a single class has none. -/
def discriminator : Descriptor → Json
  | .single _ _ => .null
  | .union _ discriminator _ _ _ => discriminator

/-- The tags of a union's leaves; a single class has none. -/
def tags : Descriptor → Entries String
  | .single _ _ => []
  | .union _ _ _ tags _ => tags

/-- The enumerations of the fields that a class lists, in order, repeats kept. -/
def enums (d : Descriptor) : List EnumClass := d.ownFields.filterMap (·.enum)

mutual

/-- The single classes of a tree, depth first, repeats kept. -/
def leaves : Descriptor → List Descriptor
  | .single head fields => [.single head fields]
  | .union _ _ _ _ subclasses => leavesAll subclasses

/-- The single classes of several trees. -/
def leavesAll : List Descriptor → List Descriptor
  | [] => []
  | d :: rest => leaves d ++ leavesAll rest

end

mutual

/-- The number of classes of a tree. -/
def classCount : Descriptor → Nat
  | .single _ _ => 1
  | .union _ _ _ _ subclasses => 1 + classCountAll subclasses

/-- The number of classes of several trees. -/
def classCountAll : List Descriptor → Nat
  | [] => 0
  | d :: rest => classCount d + classCountAll rest

end

mutual

/-- The classes of a tree, each before its subclasses, each with the union right above it. -/
def placed (above : Option Descriptor) : Descriptor → List (Option Descriptor × Descriptor)
  | .single head fields => [(above, .single head fields)]
  | .union head discriminator common tags subclasses =>
    let d : Descriptor := .union head discriminator common tags subclasses
    (above, d) :: placedAll (some d) subclasses

/-- The classes of several trees. -/
def placedAll (above : Option Descriptor) :
    List Descriptor → List (Option Descriptor × Descriptor)
  | [] => []
  | d :: rest => placed above d ++ placedAll above rest

end

mutual

/-- Warnings about single classes without fields, depth first. -/
def warnings : Descriptor → List String
  | .single head fields => if fields.isEmpty then [s!"Class '{head.name}' has no fields"] else []
  | .union _ _ _ _ subclasses => warningsAll subclasses

/-- Warnings about several trees. -/
def warningsAll : List Descriptor → List String
  | [] => []
  | d :: rest => warnings d ++ warningsAll rest

end

end Descriptor
end ClassModel
