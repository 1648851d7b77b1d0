import ClassModel.Compile.TypeText

/-!
# `Compile.Fields` — the fields of a component, resolved

Fields are resolved in the order of their declaration. Fields whose name starts with the meta
prefix are left out, and so is the discriminator field of the union the component stands in: its
literal is the tag of the variant and becomes no enumeration.
-/

set_option autoImplicit false

namespace ClassModel
namespace Compiler

/-- Is a field of this name left out as a meta field? -/
def isMeta (k : Compiler) (name : String) : Except Misfit Bool :=
  if !k.metaPrefix.isSet then .ok false
  else match k.metaPrefix with
    | .str p => .ok (p.toList.isPrefixOf name.toList)
    | _ => .error .start

/-- The enumeration of a field. -/
def enumOf (k : Compiler) (f : Field) : Except Misfit EnumClass :=
  match k.naming.enumName f.name with
  | .error e => .error e
  | .ok name => .ok ⟨name, f.literals⟩

/-- The text of the type of a field with an enumeration. The enumeration is the type, unless the
field is a collection: then the collection is applied to it. -/
def enumType (k : Compiler) (f : Field) (enum : EnumClass) : Except Misfit String :=
  if f.type.isArray then
    match k.shortName f.type with
    | .error e => .error e
    | .ok collection => k.naming.parameterize collection [enum.name]
  else .ok enum.name

/-- A field with the text of its type, and with an enumeration if it has literals. -/
def resolveField (k : Compiler) (f : Field) : Except Misfit ResolvedField :=
  if f.isEnum then
    match k.enumOf f with
    | .error e => .error e
    | .ok enum =>
      match k.enumType f enum with
      | .error e => .error e
      | .ok type => .ok { name := f.name, type, enum := some enum, required := f.required }
  else
    match k.appliedText f.type f.generics with
    | .error e => .error e
    | .ok type => .ok { name := f.name, type, required := f.required }

/-- The fields of a list, resolved, without meta fields and without the field named by `without`;
`null` names none. -/
def resolveFields (k : Compiler) (without : Json) : List Field → Except Misfit (List ResolvedField)
  | [] => .ok []
  | f :: rest =>
    match k.isMeta f.name with
    | .error e => .error e
    | .ok true => resolveFields k without rest
    | .ok false =>
      if without.text? = some f.name then resolveFields k without rest
      else
        match k.resolveField f with
        | .error e => .error e
        | .ok r =>
          match resolveFields k without rest with
          | .error e => .error e
          | .ok rs => .ok (r :: rs)

end Compiler
end ClassModel
