import ClassModel.Json.Print
import ClassModel.Schema.Basic

/-!
# `Document` — from a JSON document to a catalog of components

A document is an object whose `components` entry holds the components by name. A mapping of a
discriminator refers to other components by name; each is built after the components its mapping
refers to, so a reference that leads back to a component under construction is a cycle.

The walk of names from a top-level component to the one under construction is at the same time
the set of components under construction. Every step of it is another key of `components`, so the
number of keys bounds the depth; `load` supplies that bound.
-/

set_option autoImplicit false

namespace ClassModel
namespace Document

/-- Why a document holds no components. -/
inductive Fault
  | noComponents
  | typeShape (place : String)
  | fieldShape (place : String)
  | literalsShape (place : String)
  | componentShape (name : String)
  | discriminatorShape (name : String)
  | unknownReference (source target : String)
  | cyclicReference (walk : List String)
  | misfit (m : Misfit)
  deriving DecidableEq, Repr

/-- The names of a walk, an arrow between them. -/
def walkText (walk : List String) : String := " -> ".intercalate walk

/-- The wording of a fault; a misfit has none. -/
def Fault.message : Fault → String
  | .noComponents => "Document must contain a 'components' object"
  | .typeShape place => s!"{place}: type must be a string or an object with 'qualifier'"
  | .fieldShape place => s!"{place}: field definition must be an object"
  | .literalsShape place => s!"{place}: 'enum' must be a list of strings"
  | .componentShape name => s!"Component '{name}' must be an object"
  | .discriminatorShape name => s!"Component '{name}': discriminator needs a 'field' entry"
  | .unknownReference source target =>
    s!"Component '{source}' references unknown component '{target}'"
  | .cyclicReference walk => "Cyclic discriminator mapping: " ++ walkText walk
  | .misfit _ => ""

/-- The entry of a key in the entries of an object; the last one counts. -/
def member? (es : List (String × Json)) (key : String) : Option Json := (Entries.ofList es).get? key

/-! ## Types and fields -/

mutual

/-- A type: a text is its qualifier, an object has a `qualifier` and may have a `type` and
`generics`. -/
def typeOf (place : String) : Json → Except Fault TypeRef
  | .str q => .ok { qualifier := .str q }
  | .obj es =>
    match member? es "qualifier" with
    | none => .error (.typeShape place)
    | some q =>
      match genericsIn place es with
      | .error e => .error e
      | .ok gs => .ok ⟨q, (member? es "type").getD (.str ""), gs⟩
  | _ => .error (.typeShape place)

/-- The types in the last `generics` entry. -/
def genericsIn (place : String) : List (String × Json) → Except Fault (List TypeRef)
  | [] => .ok []
  | (k, j) :: rest =>
    if k = "generics" ∧ ¬ rest.any (fun e => e.1 = "generics") then typesIn place j
    else genericsIn place rest

/-- The types that a value lists: the items of a list, the characters of a text or the keys of an
object. -/
def typesIn (place : String) : Json → Except Fault (List TypeRef)
  | .arr items => typesOf place 0 items
  | .str s => .ok (s.toList.map fun c => { qualifier := .str (.singleton c) })
  | .obj es => .ok ((Entries.ofList es).keys.map fun k => { qualifier := .str k })
  | _ => .error (.misfit .listing)

/-- The types of the items of a list from an index on. -/
def typesOf (place : String) : Nat → List Json → Except Fault (List TypeRef)
  | _, [] => .ok []
  | i, j :: rest =>
    match typeOf s!"{place}<{i}>" j with
    | .error e => .error e
    | .ok t =>
      match typesOf place (i + 1) rest with
      | .error e => .error e
      | .ok ts => .ok (t :: ts)

end

/-- The texts of a list of texts. -/
def textsOf? : Json → Option (List String)
  | .arr items => items.mapM Json.text?
  | _ => none

/-- A field of a component. -/
def fieldOf (place name : String) (data : Json) : Except Fault Field :=
  match data with
  | .obj es =>
    match typeOf place (.obj es) with
    | .error e => .error e
    | .ok t =>
      match textsOf? ((member? es "enum").getD (.arr [])) with
      | none => .error (.literalsShape place)
      | some literals => .ok {
          name
          type := { qualifier := t.qualifier, kind := t.kind }
          generics := t.generics
          literals
          required := ((member? es "required").getD (.bool false)).isSet }
  | _ => .error (.fieldShape place)

/-- The fields of a component from their entries on. -/
def fieldsOf (component : String) : List (String × Json) → Except Fault (List Field)
  | [] => .ok []
  | (name, data) :: rest =>
    match fieldOf s!"{component}.{name}" name data with
    | .error e => .error e
    | .ok f =>
      match fieldsOf component rest with
      | .error e => .error e
      | .ok fs => .ok (f :: fs)

/-- The entries of a value that has to be an object; an absent one is empty. -/
def entriesOf : Option Json → Except Fault (Entries Json)
  | none => .ok []
  | some (.obj es) => .ok (Entries.ofList es)
  | some _ => .error (.misfit .entries)

/-! ## Components -/

/-- Builds the components that the entries of a mapping refer to, in order. -/
def buildTargets (build : Catalog → Json → Except Fault (String × Catalog)) :
    Catalog → List (String × Json) → Except Fault (Entries String × Catalog)
  | built, [] => .ok ([], built)
  | built, (literal, target) :: rest =>
    match build built target with
    | .error e => .error e
    | .ok (name, built) =>
      match buildTargets build built rest with
      | .error e => .error e
      | .ok (mapping, built) => .ok ((literal, name) :: mapping, built)

/-- The discriminator of a component, after the components it refers to. -/
def buildDiscriminator (build : Catalog → Json → Except Fault (String × Catalog)) (name : String)
    (built : Catalog) : Option Json → Except Fault (Option (Discriminator String) × Catalog)
  | none => .ok (none, built)
  | some (.obj es) =>
    match member? es "field" with
    | none => .error (.discriminatorShape name)
    | some field =>
      match entriesOf (member? es "mapping") with
      | .error e => .error e
      | .ok targets =>
        match buildTargets build built targets with
        | .error e => .error e
        | .ok (mapping, built) => .ok (some ⟨field, mapping⟩, built)
  | some _ => .error (.discriminatorShape name)

/-- What is wrong where a target is no component: the last component of the walk refers to it. -/
def unknownTarget (walk : List String) (target : String) : Fault :=
  match walk.getLast? with
  | none => .misfit .last
  | some source => .unknownReference source target

/-- Builds the component that a value refers to, unless it is built, and gives its name. -/
def build (raw : Entries Json) : Nat → List String → Catalog → Json →
    Except Fault (String × Catalog)
  | 0, walk, _, _ => .error (.cyclicReference walk)
  | depth + 1, walk, built, target =>
    match target with
    | .str name =>
      if built.has name then .ok (name, built)
      else if walk.contains name then .error (.cyclicReference (walk ++ [name]))
      else
        match raw.get? name with
        | none => .error (unknownTarget walk name)
        | some (.obj es) =>
          match entriesOf (member? es "fields") with
          | .error e => .error e
          | .ok fieldEntries =>
            match fieldsOf name fieldEntries with
            | .error e => .error e
            | .ok fields =>
              match buildDiscriminator (build raw depth (walk ++ [name])) name built
                  (member? es "discriminator") with
              | .error e => .error e
              | .ok (discriminator, built) =>
                .ok (name, built.set name (.ofFields name
                  ((member? es "qualifier").getD (.str "")) fields discriminator))
        | some _ => .error (.componentShape name)
    | target =>
      if target.isKey then .error (unknownTarget walk target.display)
      else .error (.misfit .key)

/-- Builds all components of a list of names. -/
def buildAll (raw : Entries Json) : Catalog → List String → Except Fault Catalog
  | built, [] => .ok built
  | built, name :: rest =>
    match build raw (raw.length + 1) [] built (.str name) with
    | .error e => .error e
    | .ok (_, built) => buildAll raw built rest

/-- The components of a document by name, in the order of the document. -/
def load (document : Json) : Except Fault Catalog :=
  match document.field? "components" with
  | some (.obj es) =>
    let raw := Entries.ofList es
    match buildAll raw [] raw.keys with
    | .error e => .error e
    | .ok built => .ok (raw.keys.filterMap fun k => (built.get? k).map (k, ·))
  | _ => .error .noComponents

end Document
end ClassModel
