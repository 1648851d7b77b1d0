import ClassModel.Compile.Fields
import ClassModel.Compile.Unfolding

/-!
# `Compile.CommonFields` — the fields that all leaves of a union share

A name that occurs in every leaf is common. Its field is that of the first leaf, made abstract,
and every other leaf must declare it in the same shape.
-/

set_option autoImplicit false

namespace ClassModel

/-- Do all lists of fields have a field of this name? -/
def isCommonName (leaves : List (List ResolvedField)) (name : String) : Bool :=
  leaves.all fun fs => fs.any (·.name = name)

/-- The common fields found so far, with those of further fields. The first field of a name
counts; a later one must have its shape. -/
def gatherCommon : List ResolvedField → List ResolvedField →
    Except SchemaFault (List ResolvedField)
  | found, [] => .ok found
  | found, f :: rest =>
    match found.find? (·.name = f.name) with
    | none => gatherCommon (found ++ [{ f with isAbstract := true }]) rest
    | some first =>
      if first.shape = f.shape then gatherCommon found rest
      else .error (.conflictingField first f)

/-- The fields that occur in all lists, each in the shape that all of them agree on. -/
def commonFields (leaves : List (List ResolvedField)) :
    Except SchemaFault (List ResolvedField) :=
  gatherCommon [] (leaves.flatten.filter fun f => isCommonName leaves f.name)

/-- The common fields of components, each without its discriminator field. -/
def Compiler.commonFieldsOf {ι : Type} (k : Compiler) (discriminator : Json)
    (leaves : List (Component ι)) : Except CompileFault (List ResolvedField) :=
  match traverse (fun c => k.resolveFields discriminator c.fields) leaves with
  | .error m => .error (.misfit m)
  | .ok resolved =>
    match commonFields resolved with
    | .error e => .error (.schema e)
    | .ok common => .ok common

end ClassModel
