import ClassModel.Schema.Fault
import ClassModel.Schema.Basic
import ClassModel.Traverse

/-!
# `Compile.Unfolding` — what a union reaches, as a tree

Following the mappings from a union gives a tree: its variants, the variants of the unions among
them, and so on down to plain components. A variant that is shared stands in every place that
lists it. The walk of names from the root to a union is kept; a union whose name is on the walk
already makes it cyclic, and a union without variants ends it.

No two unions on a walk have one name, so the number of components bounds its length; `unfold`
supplies that bound.
-/

set_option autoImplicit false

namespace ClassModel

/-- A variant with all that it reaches. -/
inductive Unfolding (ι : Type)
  | leaf (i : ι)
  | union (i : ι) (variants : List (Unfolding ι))
  deriving Repr

namespace Unfolding

variable {ι : Type}

/-- The component at the root. -/
def root : Unfolding ι → ι
  | .leaf i => i
  | .union i _ => i

mutual

/-- The leaves, depth first, repeats kept. -/
def leaves : Unfolding ι → List ι
  | .leaf i => [i]
  | .union _ variants => leavesAll variants

/-- The leaves of several trees. -/
def leavesAll : List (Unfolding ι) → List ι
  | [] => []
  | u :: rest => leaves u ++ leavesAll rest

end

end Unfolding

/-- The items of a list whose name has not come before. -/
def firstByName {α : Type} (name : α → String) : List String → List α → List α
  | _, [] => []
  | seen, a :: rest =>
    if seen.contains (name a) then firstByName name seen rest
    else a :: firstByName name (name a :: seen) rest

namespace Schema

/-- The variants of a union as trees. `walk` holds the names from the root to the union. -/
def unfoldFrom (s : Schema) : Nat → List String → s.Id → Except SchemaFault
    (List (Unfolding s.Id))
  | 0, walk, _ => .error (.cyclicMapping walk)
  | depth + 1, walk, i =>
    match (s.component i).targets with
    | [] => .error (.emptyMapping (s.name i))
    | targets =>
      traverse (fun j =>
        if (s.component j).isUnion then
          if walk.contains (s.name j) then .error (.cyclicMapping (walk ++ [s.name j]))
          else
            match unfoldFrom s depth (walk ++ [s.name j]) j with
            | .error e => .error e
            | .ok variants => .ok (.union j variants)
        else .ok (.leaf j)) targets

/-- The variants of a union as trees. -/
def unfold (s : Schema) (i : s.Id) : Except SchemaFault (List (Unfolding s.Id)) :=
  s.unfoldFrom s.size [s.name i] i

/-- The leaves of trees, the first of each name, depth first. -/
def distinctLeaves (s : Schema) (variants : List (Unfolding s.Id)) : List s.Id :=
  firstByName s.name [] (Unfolding.leavesAll variants)

/-- The discriminator of a union; an operation of unions fails on a plain component. -/
def requireUnion (s : Schema) (i : s.Id) (operation : String) :
    Except CompileFault (Discriminator s.Id) :=
  match (s.component i).discriminator with
  | some d => .ok d
  | none => .error (.notUnion (s.name i) operation)

/-- The variants that the mapping of a union lists; there must be some. -/
def immediateVariants (s : Schema) (i : s.Id) : Except CompileFault (List s.Id) :=
  match s.requireUnion i "listing variants" with
  | .error e => .error e
  | .ok d =>
    if d.mapping.isEmpty then .error (.schema (.emptyMapping (s.name i)))
    else .ok (d.mapping.map (·.2))

/-- The plain components that a union reaches, the first of each name, in depth-first order. -/
def leafVariants (s : Schema) (i : s.Id) : Except CompileFault (List s.Id) :=
  match s.requireUnion i "leaf flattening" with
  | .error e => .error e
  | .ok _ =>
    match s.unfold i with
    | .error e => .error (.schema e)
    | .ok variants => .ok (s.distinctLeaves variants)

end Schema

/-- The literal that stands for a variant: the one literal of its discriminator field. -/
def Component.tag {ι : Type} (c : Component ι) (field : Json) : Except CompileFault String :=
  if !field.isKey then .error (.misfit .key)
  else
    match field.text? >>= c.field? with
    | none => .error (.schema (.untagged c.name field))
    | some f =>
      match f.literals with
      | [literal] => .ok literal
      | literals => .error (.schema (.ambiguousTag c.name field literals))

end ClassModel
