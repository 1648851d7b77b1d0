import ClassModel.Ascending
import ClassModel.Naming
import ClassModel.Schema.Fault
import ClassModel.Schema.Basic
import ClassModel.Traverse

/-!
# `Compile.TypeText` — how a type is written, and what it imports

A `Compiler` holds what a compilation needs besides the schema. Provided types replace
qualifiers: each qualifier is looked up once, wherever it is used, and what replaces it is not
looked up again.
-/

set_option autoImplicit false

namespace ClassModel

/-- What a compilation needs besides the schema: the naming of the target language, qualifiers
that replace others, and the start of the names of fields that are left out. -/
structure Compiler where
  naming : Naming := Convention.standard.naming
  provided : Entries String := []
  metaPrefix : Json := .str "@"

namespace Compiler

/-- The qualifier of a type, or the provided one that replaces it. -/
def qualifierOf (k : Compiler) (t : TypeRef) : Except Misfit Json :=
  match t.qualifier with
  | .str q => .ok (.str (k.provided.getD q q))
  | q => if q.isKey then .ok q else .error .key

/-- The short name of a type. -/
def shortName (k : Compiler) (t : TypeRef) : Except Misfit String :=
  match k.qualifierOf t with
  | .error e => .error e
  | .ok q => k.naming.simpleName q

/-- A short name applied to the texts of its parameters, if it has any. -/
def applied (k : Compiler) (base : String) (parameters : List String) : Except Misfit String :=
  if parameters.isEmpty then .ok base else k.naming.parameterize base parameters

mutual

/-- The text of a type with its parameters, at every depth. -/
def typeText (k : Compiler) : TypeRef → Except Misfit String
  | ⟨q, kind, generics⟩ =>
    match k.shortName ⟨q, kind, []⟩ with
    | .error e => .error e
    | .ok base =>
      match typeTexts k generics with
      | .error e => .error e
      | .ok parameters => k.applied base parameters

/-- The texts of several types. -/
def typeTexts (k : Compiler) : List TypeRef → Except Misfit (List String)
  | [] => .ok []
  | t :: rest =>
    match typeText k t with
    | .error e => .error e
    | .ok s =>
      match typeTexts k rest with
      | .error e => .error e
      | .ok ss => .ok (s :: ss)

end

/-- The text of a type applied to the given parameters. -/
def appliedText (k : Compiler) (t : TypeRef) (generics : List TypeRef) : Except Misfit String :=
  k.typeText ⟨t.qualifier, t.kind, generics⟩

mutual

/-- The types below parameters, at every depth, the last first. -/
def mentioned : TypeRef → List TypeRef
  | ⟨q, kind, generics⟩ => ⟨q, kind, generics⟩ :: mentionedAll generics

/-- The types that several parameters mention. -/
def mentionedAll : List TypeRef → List TypeRef
  | [] => []
  | t :: rest => mentionedAll rest ++ mentioned t

end

/-- The qualifiers that a field imports: that of its type and those of all its parameters. -/
def fieldImports (k : Compiler) (f : Field) : Except Misfit (List Json) :=
  traverse k.qualifierOf (f.type :: mentionedAll f.generics)

/-- The qualifiers that the fields of a component import, left-out fields included. -/
def componentImports {ι : Type} (k : Compiler) (c : Component ι) : Except Misfit (List Json) :=
  match traverse k.fieldImports c.fields with
  | .error e => .error e
  | .ok qs => .ok qs.flatten

/-- The order of keys: texts by code point, numbers by value. Not-a-number has no place in it. -/
def keyBefore (a b : Json) : Bool :=
  match a, b with
  | .str s, .str t => textBefore s t
  | a, b => Json.compareNumbers a b == some .lt

/-- Qualifiers in ascending order, each once. Two different ones must both be texts or both be
numbers. With not-a-number among them no order of theirs is ascending: where it then stands depends
on the order in which a set is walked, which is not modelled. -/
def sortImports (qs : List Json) : Except Misfit (List Json) :=
  if qs.all (·.text?.isSome) || qs.all Json.isNumber || qs.all (·.sameKey .null) then
    .ok (ascending keyBefore Json.sameKey qs)
  else .error .order

end Compiler
end ClassModel
