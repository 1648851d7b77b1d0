import ClassModel.Proofs.Compile.Origin
import ClassModel.Proofs.Compile.Overriding

/-!
# Provided types are a substitution

Provided types replace qualifiers while a component is compiled. The same result comes from
replacing them in the schema first and compiling without provided types (`compile_provided`): every
place that reads a qualifier looks it up once, and no place looks up what it found. The law is an
equation of outcomes, so it covers the faults too, with the shapes that a clash of common fields
reports.

A schema is replaced type by type, at every depth of generics (`Schema.replace`); names, literals,
mappings and the qualifiers of components stay. Below there is one equation for each function of
the compiler that reads a type, in the order in which they call each other.
-/

set_option autoImplicit false

namespace ClassModel

/-! ## Replacing the qualifiers of a schema -/

/-- What is provided for a qualifier; what is no text stays. -/
def replacement (provided : Entries String) : Json → Json
  | .str q => .str (provided.getD q q)
  | q => q

mutual

/-- A type with its qualifier replaced, and those of its parameters at every depth. -/
def TypeRef.replace (provided : Entries String) : TypeRef → TypeRef
  | ⟨q, kind, generics⟩ =>
    ⟨replacement provided q, kind, TypeRef.replaceAll provided generics⟩

/-- Several types with their qualifiers replaced. -/
def TypeRef.replaceAll (provided : Entries String) : List TypeRef → List TypeRef
  | [] => []
  | t :: rest => t.replace provided :: TypeRef.replaceAll provided rest

end

/-- A field with the qualifiers of its types replaced. -/
def Field.replace (provided : Entries String) (f : Field) : Field :=
  { f with
    type := f.type.replace provided
    generics := f.generics.map (·.replace provided) }

/-- A component with the types of its fields replaced. Its own qualifier is not looked up. -/
def Component.replace {ι : Type} (provided : Entries String) (c : Component ι) : Component ι :=
  { c with
    fields := c.fields.map (·.replace provided)
    distinct := by
      have hnames : (c.fields.map (·.replace provided)).map (·.name) = c.fields.map (·.name) := by
        rw [List.map_map]
        rfl
      rw [hnames]
      exact c.distinct }

/-- A schema with the types of all fields replaced. It has the positions of the schema, and is
reducible so that they are of one type. -/
abbrev Schema.replace (provided : Entries String) (s : Schema) : Schema where
  size := s.size
  key := s.key
  component := fun i => (s.component i).replace provided

section Replace

variable {ι : Type} (provided : Entries String) (c : Component ι) (f : Field)

@[simp] theorem Field.name_replace : (f.replace provided).name = f.name := rfl

@[simp] theorem Component.name_replace : (c.replace provided).name = c.name := rfl

@[simp] theorem Component.isUnion_replace : (c.replace provided).isUnion = c.isUnion := rfl

@[simp] theorem Component.discriminator_replace :
    (c.replace provided).discriminator = c.discriminator := rfl

@[simp] theorem TypeRef.isArray_replace (t : TypeRef) :
    (t.replace provided).isArray = t.isArray := by
  obtain ⟨q, kind, generics⟩ := t
  rfl

end Replace

theorem TypeRef.replaceAll_eq_map (provided : Entries String) (ts : List TypeRef) :
    TypeRef.replaceAll provided ts = ts.map (·.replace provided) := by
  induction ts with
  | nil => rfl
  | cons t rest ih => rw [TypeRef.replaceAll, ih, List.map_cons]

theorem Component.field?_replace {ι : Type} (provided : Entries String) (c : Component ι)
    (n : String) : (c.replace provided).field? n = (c.field? n).map (·.replace provided) := by
  rw [Component.field?, Component.field?, Component.replace, List.find?_map]
  rfl

namespace Compiler

/-- The compiler without provided types. -/
def withoutProvided (k : Compiler) : Compiler := { k with provided := [] }

variable {ι : Type} (k : Compiler)

/-! ## Types and fields -/

/-- A lookup in no provided types finds nothing, so what was replaced is not replaced again. -/
theorem qualifierOf_replace (t : TypeRef) :
    k.withoutProvided.qualifierOf (t.replace k.provided) = k.qualifierOf t := by
  obtain ⟨q, kind, generics⟩ := t
  cases q <;> rfl

theorem shortName_replace (t : TypeRef) :
    k.withoutProvided.shortName (t.replace k.provided) = k.shortName t := by
  rw [shortName, shortName, qualifierOf_replace]
  rfl

mutual

theorem typeText_replace : (t : TypeRef) →
    k.withoutProvided.typeText (t.replace k.provided) = k.typeText t
  | ⟨q, kind, generics⟩ => by
    have hbase : k.withoutProvided.shortName ⟨replacement k.provided q, kind, []⟩ =
        k.shortName ⟨q, kind, []⟩ := k.shortName_replace ⟨q, kind, []⟩
    rw [TypeRef.replace, typeText, typeText, hbase, typeTexts_replace generics]
    rfl

theorem typeTexts_replace : (ts : List TypeRef) →
    k.withoutProvided.typeTexts (TypeRef.replaceAll k.provided ts) = k.typeTexts ts
  | [] => rfl
  | t :: rest => by
    rw [TypeRef.replaceAll, typeTexts, typeTexts, typeText_replace t, typeTexts_replace rest]

end

mutual

theorem mentioned_replace (provided : Entries String) : (t : TypeRef) →
    mentioned (t.replace provided) = (mentioned t).map (·.replace provided)
  | ⟨q, kind, generics⟩ => by
    rw [TypeRef.replace, mentioned, mentioned, mentionedAll_replace provided generics,
      List.map_cons, TypeRef.replace]

theorem mentionedAll_replace (provided : Entries String) : (ts : List TypeRef) →
    mentionedAll (TypeRef.replaceAll provided ts) = (mentionedAll ts).map (·.replace provided)
  | [] => rfl
  | t :: rest => by
    rw [TypeRef.replaceAll, mentionedAll, mentionedAll, mentioned_replace provided t,
      mentionedAll_replace provided rest, List.map_append]

end

theorem appliedText_replace (f : Field) :
    k.withoutProvided.appliedText (f.replace k.provided).type (f.replace k.provided).generics =
      k.appliedText f.type f.generics := by
  obtain ⟨n, ⟨q, kind, _⟩, generics, literals, required⟩ := f
  have ht := k.typeText_replace ⟨q, kind, generics⟩
  rw [TypeRef.replace, TypeRef.replaceAll_eq_map] at ht
  exact ht

/-- A field with an enumeration reads the qualifier of its type only where it is a collection. -/
theorem enumType_replace (f : Field) (enum : EnumClass) :
    k.withoutProvided.enumType (f.replace k.provided) enum = k.enumType f enum := by
  have hname : k.withoutProvided.shortName (f.replace k.provided).type = k.shortName f.type :=
    k.shortName_replace f.type
  have harray : (f.replace k.provided).type.isArray = f.type.isArray :=
    f.type.isArray_replace k.provided
  rw [enumType, enumType, harray, hname]
  rfl

theorem resolveField_replace (f : Field) :
    k.withoutProvided.resolveField (f.replace k.provided) = k.resolveField f := by
  have henum : k.withoutProvided.enumOf (f.replace k.provided) = k.enumOf f := rfl
  have hflag : (f.replace k.provided).isEnum = f.isEnum := rfl
  simp only [resolveField, henum, hflag, enumType_replace, appliedText_replace]
  rfl

theorem resolveFields_replace (w : Json) (fs : List Field) :
    k.withoutProvided.resolveFields w (fs.map (·.replace k.provided)) = k.resolveFields w fs := by
  induction fs with
  | nil => rfl
  | cons f rest ih =>
    have hmeta : k.withoutProvided.isMeta (f.replace k.provided).name = k.isMeta f.name := rfl
    rw [List.map_cons, resolveFields, resolveFields, hmeta, resolveField_replace, ih]
    rfl

theorem fieldImports_replace (f : Field) :
    k.withoutProvided.fieldImports (f.replace k.provided) = k.fieldImports f := by
  have htypes : (f.replace k.provided).type :: mentionedAll (f.replace k.provided).generics =
      (f.type :: mentionedAll f.generics).map (·.replace k.provided) := by
    rw [List.map_cons, ← mentionedAll_replace, TypeRef.replaceAll_eq_map]
    rfl
  have hstep : (fun t : TypeRef => k.withoutProvided.qualifierOf (t.replace k.provided)) =
      k.qualifierOf := funext k.qualifierOf_replace
  rw [fieldImports, fieldImports, htypes, traverse_map, hstep]

theorem componentImports_replace (c : Component ι) :
    k.withoutProvided.componentImports (c.replace k.provided) = k.componentImports c := by
  have hfields : (c.replace k.provided).fields = c.fields.map (·.replace k.provided) := rfl
  have hstep : (fun f : Field => k.withoutProvided.fieldImports (f.replace k.provided)) =
      k.fieldImports := funext k.fieldImports_replace
  rw [componentImports, componentImports, hfields, traverse_map, hstep]

/-! ## Components and unions -/

theorem tag_replace (provided : Entries String) (c : Component ι) (w : Json) :
    (c.replace provided).tag w = c.tag w := by
  have hfield : w.text? >>= (c.replace provided).field? =
      (w.text? >>= c.field?).map (·.replace provided) := by
    cases w.text? with
    | none => rfl
    | some n => exact c.field?_replace provided n
  rw [Component.tag, Component.tag, hfield]
  cases w.text? >>= c.field? <;> rfl

theorem singleWith_replace (c : Component ι) (fields : List ResolvedField) :
    k.withoutProvided.singleWith (c.replace k.provided) fields = k.singleWith c fields := by
  rw [singleWith, singleWith, componentImports_replace]
  rfl

theorem compileSingle_replace (c : Component ι) :
    k.withoutProvided.compileSingle (c.replace k.provided) = k.compileSingle c := by
  have hfields : k.withoutProvided.resolveFields .null (c.replace k.provided).fields =
      k.resolveFields .null c.fields := k.resolveFields_replace .null c.fields
  simp only [compileSingle, hfields, singleWith_replace]

theorem compileLeaf_replace (w : Json) (common : List ResolvedField) (c : Component ι) :
    k.withoutProvided.compileLeaf w common (c.replace k.provided) = k.compileLeaf w common c := by
  have hfields : k.withoutProvided.resolveFields w (c.replace k.provided).fields =
      k.resolveFields w c.fields := k.resolveFields_replace w c.fields
  simp only [compileLeaf, hfields, singleWith_replace]

theorem commonFieldsOf_replace (w : Json) (cs : List (Component ι)) :
    k.withoutProvided.commonFieldsOf w (cs.map (·.replace k.provided)) = k.commonFieldsOf w cs := by
  have hstep : (fun c : Component ι =>
      k.withoutProvided.resolveFields w (c.replace k.provided).fields) =
      fun c => k.resolveFields w c.fields := funext fun c => k.resolveFields_replace w c.fields
  rw [commonFieldsOf, commonFieldsOf, traverse_map, hstep]

variable (s : Schema)

/-- Replaced types change nothing about what a union unfolds to. -/
theorem unfoldFrom_replace (provided : Entries String) (depth : Nat) (walk : List String)
    (i : s.Id) : (s.replace provided).unfoldFrom depth walk i = s.unfoldFrom depth walk i := by
  induction depth generalizing walk i with
  | zero => rfl
  | succ depth ih =>
    have hbranch : (s.replace provided).branch depth walk = s.branch depth walk := by
      funext j
      simp only [Schema.branch, Schema.name, ih, Component.isUnion_replace, Component.name_replace]
      cases s.unfoldFrom depth (walk ++ [(s.component j).name]) j <;> rfl
    rw [Schema.unfoldFrom_succ, Schema.unfoldFrom_succ, hbranch]
    rfl

theorem liftedFields_replace (inherit : Bool) (w : Json) (variants : List (Unfolding s.Id)) :
    k.withoutProvided.liftedFields (s.replace k.provided) inherit w variants =
      k.liftedFields s inherit w variants := by
  have hleaves : ((s.replace k.provided).distinctLeaves variants).map
      (s.replace k.provided).component =
      ((s.distinctLeaves variants).map s.component).map (·.replace k.provided) := by
    rw [List.map_map]
    rfl
  rw [liftedFields, liftedFields, hleaves, commonFieldsOf_replace]

/-- **A variant is compiled alike**, whatever union it stands in. -/
theorem compileVariant_replace (inherit : Bool) (u : Unfolding s.Id) :
    ∀ w common, k.withoutProvided.compileVariant (s.replace k.provided) inherit w common u =
      k.compileVariant s inherit w common u := by
  induction u using Unfolding.treeInduction with
  | leaf l =>
    intro w common
    rw [compileVariant, compileVariant, componentImports_replace, compileLeaf_replace, tag_replace]
    rfl
  | union i variants ih =>
    intro w common
    have hparts : ∀ w common,
        traverse (k.withoutProvided.compileVariant (s.replace k.provided) inherit w common)
            variants = traverse (k.compileVariant s inherit w common) variants := by
      intro w common
      exact traverse_congr fun v hv => ih v hv w common
    simp only [compileVariant, compileVariants_eq_traverse, componentImports_replace,
      Component.discriminator_replace, liftedFields_replace, hparts]
    rfl

theorem unfold_replace (provided : Entries String) (i : s.Id) :
    (s.replace provided).unfold i = s.unfold i :=
  unfoldFrom_replace s provided s.size [s.name i] i

theorem compileUnion_replace (inherit : Bool) (i : s.Id) (parent : List String) :
    k.withoutProvided.compileUnion (s.replace k.provided) inherit i parent =
      k.compileUnion s inherit i parent := by
  have hparts : ∀ w common variants,
      traverse (k.withoutProvided.compileVariant (s.replace k.provided) inherit w common) variants =
        traverse (k.compileVariant s inherit w common) variants := by
    intro w common variants
    exact traverse_congr fun v _ => k.compileVariant_replace s inherit v w common
  simp only [compileUnion, Schema.requireUnion, Component.discriminator_replace, unfold_replace,
    liftedFields_replace, compileVariants_eq_traverse, hparts]
  cases (s.component i).discriminator with
  | none => rfl
  | some d =>
    cases s.unfold i with
    | error e => rfl
    | ok variants =>
      dsimp only
      cases k.liftedFields s inherit d.field variants with
      | error e => rfl
      | ok lifted =>
        dsimp only
        cases traverse (k.compileVariant s inherit d.field lifted) variants <;> rfl

/-- **Provided types commute with compilation.** Compiling with provided types has the outcome, tree
or fault, of replacing each qualifier of a type once in the schema and compiling without provided
types. The qualifiers of components are not replaced: each class has that of the component that it
is compiled from. -/
theorem compile_provided (i : s.Id) (inherit : Bool) :
    k.compile s i inherit = k.withoutProvided.compile (s.replace k.provided) i inherit ∧
      ∀ d, k.compile s i inherit = .ok d → ∀ route u, d.at? route = some u →
        ∃ j, s.follow? i route = some j ∧ u.head.qualifier = (s.component j).qualifier := by
  constructor
  · simp only [compile, Component.isUnion_replace, compileUnion_replace, compileSingle_replace]
  · intro d hd route u hu
    obtain ⟨j, hj, hclass⟩ := (classOf_of_compile hd).of_at? hu
    exact ⟨j, hj, hclass.qualifier_eq⟩

end Compiler

/-! ## An instance

Texts are provided for by a type that something else is provided for in turn, and so is the
qualifier of the card. -/

namespace Notes

def provided : Entries String :=
  [("kotlin.String", "corp.Text"), ("corp.Text", "corp.Line"), ("corp.cards", "corp.paper")]

/-- The receipts, and a card with notes. -/
def schema : Schema where
  size := 2
  key i := ["Receipt", "Card"][i]
  component i := [
    { name := "Receipt", fields := [],
      discriminator := some ⟨.str "type", [("CARD", Fin.last 1)]⟩,
      distinct := List.nodup_nil },
    { name := "Card", qualifier := .str "corp.cards", fields := [
      { name := "type", type := { qualifier := .str "kotlin.String" }, literals := ["CARD"] },
      { name := "notes", type := { qualifier := .str "kotlin.Map" }, generics := [
        { qualifier := .str "kotlin.String" },
        { qualifier := .str "kotlin.List", generics := [{ qualifier := .str "kotlin.String" }] }],
        required := true }] }][i]

/-- The notes, resolved: what is provided for texts is not looked up again. -/
def notesField : ResolvedField :=
  { name := "notes", type := "Map<Text, List<Text>>", required := true }

def imports : List Json := [.str "corp.Text", .str "kotlin.List", .str "kotlin.Map"]

/-- The class of the card, whose own qualifier is not looked up. -/
def cardClass : Descriptor :=
  .single ⟨"Card", .str "corp.cards", imports⟩ [{ notesField with isOverride := true }]

def receiptClass : Descriptor :=
  .union ⟨"Receipt", .str "", imports⟩ (.str "type") [{ notesField with isAbstract := true }]
    [("Card", "CARD")] [cardClass]

theorem compile_schema : ({ provided } : Compiler).compile schema (0 : Fin 2) true =
    .ok receiptClass := rfl

end Notes

namespace Compiler

open Notes in
/-- The notes compile alike from the schema with its types replaced, and the card keeps its
qualifier. -/
theorem notes_provided :
    ({} : Compiler).compile (schema.replace Notes.provided) (0 : Fin 2) true = .ok receiptClass ∧
      ∃ j, schema.follow? (0 : Fin 2) [0] = some j ∧
        cardClass.head.qualifier = (schema.component j).qualifier := by
  obtain ⟨hreplaced, hqualifier⟩ :=
    compile_provided { provided := Notes.provided } schema (0 : Fin 2) true
  have hcompiled := compile_schema
  refine ⟨?_, hqualifier receiptClass hcompiled [0] cardClass rfl⟩
  rw [hreplaced] at hcompiled
  exact hcompiled

end Compiler
end ClassModel
