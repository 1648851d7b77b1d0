import ClassModel.Compile.CommonFields

/-!
# `Compile.ClassTree` — from a component to its classes

A plain component becomes a single class with all its fields. A union becomes a union class with a
subclass for each entry of its mapping; nested unions become nested union classes. With
inheritance the fields common to all leaves of a union move to its class, except those that the
enclosing union has already, and the leaves list them first, as overrides.

The union is unfolded first, so cycles and empty mappings are found before anything else. After
that, faults come in the order of the tree: common fields of a union, then its variants one by
one, then the order of its imports.
-/

set_option autoImplicit false

namespace ClassModel
namespace Compiler

/-- The head of the class of a component, with the given imports. -/
def headOf {ι : Type} (c : Component ι) (imports : List Json) :
    Except CompileFault ClassHead :=
  match sortImports imports with
  | .error m => .error (.misfit m)
  | .ok imports => .ok ⟨c.name, c.qualifier, imports⟩

/-- A single class with the given fields. -/
def singleWith {ι : Type} (k : Compiler) (c : Component ι) (fields : List ResolvedField) :
    Except CompileFault Descriptor :=
  match k.componentImports c with
  | .error m => .error (.misfit m)
  | .ok imports =>
    match headOf c imports with
    | .error e => .error e
    | .ok head => .ok (.single head fields)

/-- The class of a component that is compiled on its own. -/
def compileSingle {ι : Type} (k : Compiler) (c : Component ι) : Except CompileFault Descriptor :=
  match k.resolveFields .null c.fields with
  | .error m => .error (.misfit m)
  | .ok fields => k.singleWith c fields

/-- The fields with those named as common marked as overrides and put first. -/
def overridesFirst (common : List ResolvedField) (fields : List ResolvedField) :
    List ResolvedField :=
  let marked := fields.map fun f =>
    { f with isOverride := common.any (·.name = f.name) }
  marked.filter (·.isOverride) ++ marked.filter (!·.isOverride)

/-- The class of a leaf of a union with the given discriminator field and common fields. -/
def compileLeaf {ι : Type} (k : Compiler) (discriminator : Json) (common : List ResolvedField)
    (c : Component ι) : Except CompileFault Descriptor :=
  match k.resolveFields discriminator c.fields with
  | .error m => .error (.misfit m)
  | .ok fields => k.singleWith c (overridesFirst common fields)

/-- What a variant brings to the class of its union. -/
structure Part where
  imports : List Json
  tags : Entries String
  subclass : Descriptor

/-- The common fields of the leaves of a union; none without inheritance. -/
def liftedFields (k : Compiler) (s : Schema) (inherit : Bool) (discriminator : Json)
    (variants : List (Unfolding s.Id)) : Except CompileFault (List ResolvedField) :=
  if inherit then
    k.commonFieldsOf discriminator ((s.distinctLeaves variants).map s.component)
  else .ok []

/-- The class of a union, of what its variants bring. -/
def unionOf {ι : Type} (c : Component ι) (discriminator : Json) (parent : List String)
    (common : List ResolvedField) (parts : List Part) : Except CompileFault Descriptor :=
  match headOf c (parts.flatMap (·.imports)) with
  | .error e => .error e
  | .ok head => .ok (.union head discriminator
      (common.filter fun f => !parent.contains f.name)
      (parts.foldl (fun tags p => tags.merge p.tags) [])
      (parts.map (·.subclass)))

mutual

/-- What a variant brings to a union with the given discriminator field and common fields. -/
def compileVariant (k : Compiler) (s : Schema) (inherit : Bool) (discriminator : Json)
    (common : List ResolvedField) : Unfolding s.Id → Except CompileFault Part
  | .leaf i =>
    match k.componentImports (s.component i) with
    | .error m => .error (.misfit m)
    | .ok imports =>
      match k.compileLeaf discriminator common (s.component i) with
      | .error e => .error e
      | .ok subclass =>
        match (s.component i).tag discriminator with
        | .error e => .error e
        | .ok tag => .ok ⟨imports, [(s.name i, tag)], subclass⟩
  | .union i variants =>
    match k.componentImports (s.component i) with
    | .error m => .error (.misfit m)
    | .ok imports =>
      let own := ((s.component i).discriminator.map (·.field)).getD .null
      match k.liftedFields s inherit own variants with
      | .error e => .error e
      | .ok lifted =>
        match compileVariants k s inherit own lifted variants with
        | .error e => .error e
        | .ok parts =>
          match unionOf (s.component i) own (common.map (·.name)) lifted parts with
          | .error e => .error e
          | .ok subclass => .ok ⟨imports ++ subclass.head.imports, subclass.tags, subclass⟩

/-- What the variants of a union bring, in order. -/
def compileVariants (k : Compiler) (s : Schema) (inherit : Bool) (discriminator : Json)
    (common : List ResolvedField) : List (Unfolding s.Id) → Except CompileFault (List Part)
  | [] => .ok []
  | u :: rest =>
    match compileVariant k s inherit discriminator common u with
    | .error e => .error e
    | .ok part =>
      match compileVariants k s inherit discriminator common rest with
      | .error e => .error e
      | .ok parts => .ok (part :: parts)

end

/-- The class of a union and its subclasses. `parent` names the common fields that an enclosing
union has already. -/
def compileUnion (k : Compiler) (s : Schema) (inherit : Bool) (i : s.Id)
    (parent : List String) : Except CompileFault Descriptor :=
  match s.requireUnion i "union compilation" with
  | .error e => .error e
  | .ok d =>
    match s.unfold i with
    | .error e => .error (.schema e)
    | .ok variants =>
      match k.liftedFields s inherit d.field variants with
      | .error e => .error e
      | .ok lifted =>
        match k.compileVariants s inherit d.field lifted variants with
        | .error e => .error e
        | .ok parts => unionOf (s.component i) d.field parent lifted parts

/-- The classes of a component. -/
def compile (k : Compiler) (s : Schema) (i : s.Id) (inherit : Bool) :
    Except CompileFault Descriptor :=
  if (s.component i).isUnion then k.compileUnion s inherit i []
  else k.compileSingle (s.component i)

end Compiler
end ClassModel
