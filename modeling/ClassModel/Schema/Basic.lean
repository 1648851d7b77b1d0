import ClassModel.Json.Basic
import ClassModel.Misfit

/-!
# `Schema` — components, their fields and their unions

A component has fields, and is a union when it has a discriminator: a field name and a mapping
from literals to the variants of the union. Mappings may be shared, repeated and cyclic, so a
schema is a finite table of components whose mappings hold positions of that table: `Component ι`
is a component whose variants are named by `ι`, and `Schema` ties the knot with `Fin size`.

Qualifiers, the kind of a type and the field of a discriminator are kept as the document gives
them; anything but a text is refused where it is used.
-/

set_option autoImplicit false

namespace ClassModel

/-- A reference to a type: its qualifier, its kind, and the types it is applied to. -/
structure TypeRef where
  qualifier : Json
  kind : Json := .str ""
  generics : List TypeRef := []
  deriving Repr

namespace TypeRef

/-- The kind of collections. -/
def arrayKind : String := "array"

/-- Is the type a collection? -/
def isArray (t : TypeRef) : Bool := t.kind.text? == some arrayKind

end TypeRef

/-- A field of a component. Its type is applied to `generics`; literals make it an enumeration. -/
structure Field where
  name : String
  type : TypeRef
  generics : List TypeRef := []
  literals : List String := []
  required : Bool := false
  deriving Repr

/-- Is the field an enumeration? -/
def Field.isEnum (f : Field) : Bool := !f.literals.isEmpty

/-- Fields by name: setting a name again replaces the field and leaves it where it first stood. -/
def setField : List Field → Field → List Field
  | [], f => [f]
  | g :: rest, f => if g.name = f.name then f :: rest else g :: setField rest f

/-- The field that tells the variants of a union apart, and the variant of each of its literals. -/
structure Discriminator (ι : Type) where
  field : Json
  mapping : Entries ι
  deriving Repr

/-- A component whose variants are named by `ι`. No two of its fields have one name. -/
structure Component (ι : Type) where
  name : String
  qualifier : Json := .str ""
  fields : List Field := []
  discriminator : Option (Discriminator ι) := none
  distinct : (fields.map (·.name)).Nodup := by decide
  deriving Repr

theorem mem_names_setField (fs : List Field) (f : Field) (n : String) :
    n ∈ (setField fs f).map (·.name) ↔ n = f.name ∨ n ∈ fs.map (·.name) := by
  induction fs with
  | nil => simp [setField]
  | cons g rest ih =>
    simp only [setField]
    split
    · rename_i h
      simp [h]
    · simp only [List.map_cons, List.mem_cons, ih]
      constructor <;> (intro h; rcases h with h | h | h <;> simp [h])

/-- Setting a field keeps the names distinct. -/
theorem nodup_names_setField {fs : List Field} (h : (fs.map (·.name)).Nodup) (f : Field) :
    ((setField fs f).map (·.name)).Nodup := by
  induction fs with
  | nil => simp [setField]
  | cons g rest ih =>
    simp only [List.map_cons, List.nodup_cons] at h
    simp only [setField]
    split
    · rename_i hn
      simp only [List.map_cons, List.nodup_cons]
      exact ⟨hn ▸ h.1, h.2⟩
    · rename_i hn
      simp only [List.map_cons, List.nodup_cons]
      refine ⟨fun hm => ?_, ih h.2⟩
      rcases (mem_names_setField rest f g.name).mp hm with hm | hm
      · exact hn hm
      · exact h.1 hm

theorem nodup_names_foldl_setField {fs : List Field} (h : (fs.map (·.name)).Nodup)
    (more : List Field) : ((more.foldl setField fs).map (·.name)).Nodup := by
  induction more generalizing fs with
  | nil => exact h
  | cons f rest ih => exact ih (nodup_names_setField h f)

namespace Component

variable {ι κ : Type}

/-- The component with the given fields; a repeated name keeps its first place and its last
field. -/
def ofFields (name : String) (qualifier : Json) (fields : List Field)
    (discriminator : Option (Discriminator ι)) : Component ι where
  name := name
  qualifier := qualifier
  fields := fields.foldl setField []
  discriminator := discriminator
  distinct := nodup_names_foldl_setField (by simp) fields

/-- Is the component a union? -/
def isUnion (c : Component ι) : Bool := c.discriminator.isSome

/-- The field of a name. -/
def field? (c : Component ι) (name : String) : Option Field := c.fields.find? (·.name = name)

/-- The entries of the discriminator's mapping; none for a component that is no union. -/
def mapping (c : Component ι) : Entries ι := (c.discriminator.map (·.mapping)).getD []

/-- The variants that the discriminator's mapping lists, in order, repeats kept. -/
def targets (c : Component ι) : List ι := c.mapping.map (·.2)

/-- The component with its variants renamed. -/
def map (f : ι → κ) (c : Component ι) : Component κ where
  name := c.name
  qualifier := c.qualifier
  fields := c.fields
  discriminator := c.discriminator.map fun d => ⟨d.field, d.mapping.map fun e => (e.1, f e.2)⟩
  distinct := c.distinct

end Component

/-- A finite table of components. The key of a component is what others refer to it by; it need
not be its name. -/
structure Schema where
  size : Nat
  key : Fin size → String
  component : Fin size → Component (Fin size)

/-- Components by key, their variants named by key. -/
abbrev Catalog := Entries (Component String)

namespace Schema

/-- A component of the schema. -/
abbrev Id (s : Schema) : Type := Fin s.size

/-- The positions of the schema, in order. -/
def ids (s : Schema) : List s.Id := List.finRange s.size

/-- The component that a key refers to. -/
def find? (s : Schema) (key : String) : Option s.Id := s.ids.find? fun i => s.key i = key

/-- The keys, in order. -/
def keys (s : Schema) : List String := s.ids.map s.key

/-- The name of a component. -/
def name (s : Schema) (i : s.Id) : String := (s.component i).name

/-- The first key that some mapping of the catalog refers to and the catalog does not have. -/
def unknownTarget? (catalog : Catalog) : Option String :=
  (catalog.flatMap fun e => e.2.targets).find? fun t => !(catalog.keys.contains t)

/-- The position of a key in a catalog; `i` where the key is not there. -/
def positionOf (catalog : Catalog) (i : Fin catalog.length) (key : String) : Fin catalog.length :=
  ((List.finRange catalog.length).find? fun j => catalog[j].1 = key).getD i

/-- The table of a catalog whose mappings refer to keys of it. -/
def tied (catalog : Catalog) : Schema where
  size := catalog.length
  key i := catalog[i].1
  component i := catalog[i].2.map (positionOf catalog i)

/-- The table of a catalog. Every key that a mapping refers to must be there. -/
def ofCatalog (catalog : Catalog) : Except String Schema :=
  match unknownTarget? catalog with
  | some t => .error t
  | none => .ok (tied catalog)

end Schema
end ClassModel
