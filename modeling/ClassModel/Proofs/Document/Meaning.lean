import ClassModel.Proofs.Entries
import ClassModel.Proofs.Traverse
import ClassModel.Schema.Document

/-!
# What a document means

The readers of a document stop at the first value of a wrong shape, with a fault that names its
place. What a value means is said here apart from them: `GivesType`, `GivesField` and
`GivesComponent` relate a value to the type, the field or the component that it gives, and a value
that gives none is of a wrong shape. A component is given by its own value alone: its mapping holds
the names of its variants, whatever these are.

The readers are exact for it: they succeed on the values that give something, and return just that
(`typeOf_eq_ok_iff`, `fieldsOf_eq_ok_iff`). So a name and a value give at most one component
(`GivesComponent.unique`).
-/

set_option autoImplicit false

namespace ClassModel
namespace Document

variable {es : List (String × Json)} {key place name : String} {j : Json} {f : Field}
  {fs : List Field} {c c' : Component String}

/-! ## The relation -/

mutual

/-- The value gives the type: a text gives its qualifier, an object has a qualifier and may have a
kind and parameters. -/
inductive GivesType : Json → TypeRef → Prop
  | text (q : String) : GivesType (.str q) { qualifier := .str q }
  | object {es : List (String × Json)} {q : Json} {ts : List TypeRef} :
      member? es "qualifier" = some q →
      GivesTypes ((member? es "generics").getD (.arr [])) ts →
      GivesType (.obj es) ⟨q, (member? es "type").getD (.str ""), ts⟩

/-- The value lists the types: a list by its items, a text by its characters, an object by its
keys. -/
inductive GivesTypes : Json → List TypeRef → Prop
  | items {items : List Json} {ts : List TypeRef} :
      List.Forall₂ GivesType items ts → GivesTypes (.arr items) ts
  | characters (s : String) :
      GivesTypes (.str s) (s.toList.map fun c => { qualifier := .str (.singleton c) })
  | keys (es : List (String × Json)) :
      GivesTypes (.obj es) ((Entries.ofList es).keys.map fun k => { qualifier := .str k })

end

/-- The value gives the field of the name: an object that gives a type, whose parameters are those
of the field, and that lists the literals of the field. -/
inductive GivesField (name : String) : Json → Field → Prop
  | object {es : List (String × Json)} {t : TypeRef} {literals : List String} :
      GivesType (.obj es) t → (member? es "enum").getD (.arr []) = .arr (literals.map .str) →
      GivesField name (.obj es) {
        name
        type := { qualifier := t.qualifier, kind := t.kind }
        generics := t.generics
        literals
        required := ((member? es "required").getD (.bool false)).isSet }

/-- What stands under the key `discriminator` gives the discriminator: nothing gives none, and an
object with a `field` gives one whose mapping has the literals of its `mapping`, in order, each
with the name that stands for it there. -/
inductive GivesDiscriminator : Option Json → Option (Discriminator String) → Prop
  | none : GivesDiscriminator none none
  | object {es mes : List (String × Json)} {field : Json} {mapping : Entries String} :
      member? es "field" = some field → (member? es "mapping").getD (.obj []) = .obj mes →
      Entries.ofList mes = mapping.map (fun e => (e.1, .str e.2)) →
      GivesDiscriminator (some (.obj es)) (some ⟨field, mapping⟩)

/-- The entries `es` of an object give the component of the name. -/
structure GivesComponent (name : String) (es : List (String × Json)) (c : Component String) :
    Prop where
  name : c.name = name
  qualifier : c.qualifier = (member? es "qualifier").getD (.str "")
  fields : ∃ fes, (member? es "fields").getD (.obj []) = .obj fes ∧
    List.Forall₂ (fun e f => GivesField e.1 e.2 f) (Entries.ofList fes) c.fields
  discriminator : GivesDiscriminator (member? es "discriminator") c.discriminator

/-! ## Entries of an object -/

theorem member?_cons (e : String × Json) (rest : List (String × Json)) (key : String) :
    member? (e :: rest) key = (member? rest key).or (if e.1 = key then some e.2 else none) :=
  Entries.get?_ofList_cons e rest key

theorem member?_eq_none_iff : member? es key = none ↔ es.any (fun e => e.1 = key) = false := by
  induction es with
  | nil => simp [member?, Entries.ofList, Entries.merge]
  | cons e rest ih =>
    rw [member?_cons, Option.or_eq_none_iff, ih, List.any_cons, Bool.or_eq_false_iff]
    by_cases hk : e.1 = key <;> simp [hk]

/-- An entry whose key does not come again counts. -/
theorem member?_cons_last {k : String} {rest : List (String × Json)}
    (h : k = key ∧ ¬ rest.any (fun e => e.1 = key)) : member? ((k, j) :: rest) key = some j := by
  have hlater : member? rest key = none :=
    member?_eq_none_iff.mpr (Bool.not_eq_true _ ▸ h.2)
  rw [member?_cons, hlater, Option.none_or, if_pos h.1]

/-- Every other entry is passed over. -/
theorem member?_cons_skip {k : String} {rest : List (String × Json)}
    (h : ¬ (k = key ∧ ¬ rest.any (fun e => e.1 = key))) :
    member? ((k, j) :: rest) key = member? rest key := by
  rw [member?_cons]
  by_cases hk : k = key
  · have hlater : rest.any (fun e => e.1 = key) = true := by
      by_contra hl
      exact h ⟨hk, hl⟩
    cases hm : member? rest key with
    | none =>
      rw [member?_eq_none_iff, hlater] at hm
      cases hm
    | some _ => rfl
  · rw [if_neg hk, Option.or_none]

/-! ## The readers are exact -/

mutual

/-- **A type is read exactly if the value gives it.** -/
theorem typeOf_eq_ok_iff : (place : String) → (j : Json) → (t : TypeRef) →
    (typeOf place j = .ok t ↔ GivesType j t)
  | place, .str q, t => by
    rw [typeOf]
    constructor
    · intro h
      cases h
      exact .text q
    · intro h
      cases h
      rfl
  | place, .obj es, t => by
    rw [typeOf]
    constructor
    · intro h
      split at h
      · cases h
      · next q hq =>
        split at h
        · cases h
        · next ts hts =>
          cases h
          exact .object hq ((genericsIn_eq_ok_iff place es ts).mp hts)
    · intro h
      cases h with
      | object hq hts =>
        rw [hq, (genericsIn_eq_ok_iff place es _).mpr hts]
  | place, .null, t | place, .bool b, t | place, .int n, t | place, .float x, t
  | place, .arr items, t => by
    constructor
    · intro h
      simp [typeOf] at h
    · intro h
      cases h

theorem genericsIn_eq_ok_iff : (place : String) → (es : List (String × Json)) →
    (ts : List TypeRef) →
    (genericsIn place es = .ok ts ↔ GivesTypes ((member? es "generics").getD (.arr [])) ts)
  | place, [], ts => by
    have hnone : member? [] "generics" = none := rfl
    rw [genericsIn, hnone, Option.getD_none]
    constructor
    · intro h
      cases h
      exact .items .nil
    · intro h
      cases h with
      | items h =>
        cases h
        rfl
  | place, (k, j) :: rest, ts => by
    rw [genericsIn]
    split
    · next h =>
      rw [member?_cons_last h, Option.getD_some]
      exact typesIn_eq_ok_iff place j ts
    · next h =>
      rw [member?_cons_skip h]
      exact genericsIn_eq_ok_iff place rest ts

theorem typesIn_eq_ok_iff : (place : String) → (j : Json) → (ts : List TypeRef) →
    (typesIn place j = .ok ts ↔ GivesTypes j ts)
  | place, .arr items, ts => by
    rw [typesIn, typesOf_eq_ok_iff place 0 items ts]
    constructor
    · intro h
      exact .items h
    · intro h
      cases h with
      | items h => exact h
  | place, .str s, ts => by
    rw [typesIn]
    constructor
    · intro h
      cases h
      exact .characters s
    · intro h
      cases h
      rfl
  | place, .obj es, ts => by
    rw [typesIn]
    constructor
    · intro h
      cases h
      exact .keys es
    · intro h
      cases h
      rfl
  | place, .null, ts | place, .bool b, ts | place, .int n, ts | place, .float x, ts => by
    constructor
    · intro h
      simp [typesIn] at h
    · intro h
      cases h

theorem typesOf_eq_ok_iff : (place : String) → (n : Nat) → (items : List Json) →
    (ts : List TypeRef) → (typesOf place n items = .ok ts ↔ List.Forall₂ GivesType items ts)
  | place, n, [], ts => by
    rw [typesOf]
    simp [eq_comm]
  | place, n, j :: rest, ts => by
    rw [typesOf]
    constructor
    · intro h
      split at h
      · cases h
      · next t ht =>
        split at h
        · cases h
        · next rest' hr =>
          cases h
          exact .cons ((typeOf_eq_ok_iff _ j t).mp ht) ((typesOf_eq_ok_iff place _ rest _).mp hr)
    · intro h
      cases h with
      | cons ht hr =>
        rw [(typeOf_eq_ok_iff _ j _).mpr ht]
        dsimp only
        rw [(typesOf_eq_ok_iff place _ rest _).mpr hr]

end

theorem mapM_text?_eq_some_iff {items : List Json} {literals : List String} :
    items.mapM Json.text? = some literals ↔ items = literals.map .str := by
  induction items generalizing literals with
  | nil => cases literals <;> simp
  | cons i rest ih =>
    cases literals with
    | nil => cases i <;> simp [Json.text?, Option.bind_eq_some_iff]
    | cons l literals => cases i <;> simp [Json.text?, Option.bind_eq_some_iff, ih, and_comm]

theorem textsOf?_eq_some_iff {literals : List String} :
    textsOf? j = some literals ↔ j = .arr (literals.map .str) := by
  cases j with
  | arr items => rw [textsOf?, mapM_text?_eq_some_iff, Json.arr.injEq]
  | _ => simp [textsOf?]

/-- **A field is read exactly if the value gives it.** -/
theorem fieldOf_eq_ok_iff : fieldOf place name j = .ok f ↔ GivesField name j f := by
  cases j with
  | obj es =>
    rw [fieldOf]
    constructor
    · intro h
      split at h
      · cases h
      · next t ht =>
        split at h
        · cases h
        · next literals hl =>
          cases h
          exact .object ((typeOf_eq_ok_iff place _ t).mp ht) (textsOf?_eq_some_iff.mp hl)
    · intro h
      cases h with
      | object ht hl =>
        rw [(typeOf_eq_ok_iff place _ _).mpr ht]
        dsimp only
        rw [textsOf?_eq_some_iff.mpr hl]
  | _ =>
    constructor
    · intro h
      simp [fieldOf] at h
    · intro h
      cases h

/-- The fields of a component are read one by one. -/
theorem fieldsOf_eq_ok_iff :
    fieldsOf name es = .ok fs ↔ List.Forall₂ (fun e f => GivesField e.1 e.2 f) es fs := by
  induction es generalizing fs with
  | nil =>
    rw [fieldsOf]
    simp [eq_comm]
  | cons e rest ih =>
    obtain ⟨n, data⟩ := e
    rw [fieldsOf]
    constructor
    · intro h
      split at h
      · cases h
      · next f hf =>
        split at h
        · cases h
        · next fs' hfs =>
          cases h
          exact .cons (fieldOf_eq_ok_iff.mp hf) (ih.mp hfs)
    · intro h
      cases h with
      | cons hf hfs =>
        rw [fieldOf_eq_ok_iff.mpr hf]
        dsimp only
        rw [ih.mpr hfs]

theorem entriesOf_eq_ok_iff {o : Option Json} {entries : Entries Json} :
    entriesOf o = .ok entries ↔ ∃ es, o.getD (.obj []) = .obj es ∧ entries = Entries.ofList es := by
  cases o with
  | none => simp [entriesOf, Entries.ofList, Entries.merge, eq_comm]
  | some j => cases j <;> simp [entriesOf, eq_comm]

/-! ## A value gives at most one component -/

theorem GivesDiscriminator.unique {o : Option Json} {d d' : Option (Discriminator String)}
    (h : GivesDiscriminator o d) (h' : GivesDiscriminator o d') : d = d' := by
  cases h with
  | none =>
    cases h'
    rfl
  | object hf hm hmapping =>
    cases h' with
    | object hf' hm' hmapping' =>
      rw [hf] at hf'
      cases hf'
      rw [hm] at hm'
      cases hm'
      have hinj : Function.Injective fun e : String × String => (e.1, Json.str e.2) := by
        rintro ⟨l, t⟩ ⟨l', t'⟩ h
        simpa using h
      rw [hinj.list_map (hmapping.symm.trans hmapping')]

/-- **A name and a value give at most one component.** -/
theorem GivesComponent.unique (h : GivesComponent name es c) (h' : GivesComponent name es c') :
    c = c' := by
  obtain ⟨hname, hqualifier, ⟨fes, hfes, hfields⟩, hd⟩ := h
  obtain ⟨hname', hqualifier', ⟨fes', hfes', hfields'⟩, hd'⟩ := h'
  rw [hfes] at hfes'
  cases hfes'
  -- Reading the fields is a function, and both lists are its result.
  have hread : fieldsOf name (Entries.ofList fes) = .ok c.fields := fieldsOf_eq_ok_iff.mpr hfields
  rw [fieldsOf_eq_ok_iff.mpr hfields'] at hread
  have hfs : c'.fields = c.fields := Except.ok.inj hread
  obtain ⟨_, _, _, _, _⟩ := c
  obtain ⟨_, _, _, _, _⟩ := c'
  dsimp only at hname hqualifier hd hname' hqualifier' hd' hfs
  subst hname hname' hfs
  rw [hqualifier, hqualifier', hd.unique hd']

theorem GivesDiscriminator.isSome_iff {o : Option Json} {d : Option (Discriminator String)}
    (h : GivesDiscriminator o d) : d.isSome = true ↔ ∃ j, o = some j := by
  cases h <;> simp

/-- A component is a union exactly if its value has a discriminator. -/
theorem GivesComponent.isUnion_iff (h : GivesComponent name es c) :
    c.isUnion = true ↔ ∃ j, member? es "discriminator" = some j :=
  h.discriminator.isSome_iff

end Document
end ClassModel
