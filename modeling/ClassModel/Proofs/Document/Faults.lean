import ClassModel.Proofs.Document.References

/-!
# What stops the readers

`Meaning` says of which values the readers of a document give something. Here is what they answer
for all others: `TypeFault`, `FieldFault` and `OwnFault` relate a value to the fault that is the
first one in the order of reading, and the readers stop with just that (`typeOf_eq_error_iff`,
`fieldOf_eq_error_iff`, `fieldsOf_eq_error_iff`).

Most faults are a shape that is asked for. Some are not: nothing asks whether `fields` and `mapping`
are objects before their entries are taken, whether types can be listed from `generics`, or whether
a target can be looked up. These are a `misfit`, which has no wording, and `Misplaced` says where in
a document they stand.
-/

set_option autoImplicit false

namespace ClassModel
namespace Document

variable {es : List (String × Json)} {raw targets : Entries Json} {place name : String} {j : Json}
  {e : Fault}

/-! ## Types and fields -/

mutual

/-- The first fault of a value that should give a type. -/
inductive TypeFault : String → Json → Fault → Prop
  | shape {place : String} {j : Json} : (∀ q, j ≠ .str q) →
      (∀ es, j = .obj es → member? es "qualifier" = none) → TypeFault place j (.typeShape place)
  | generics {place : String} {es : List (String × Json)} {q : Json} {e : Fault} :
      member? es "qualifier" = some q →
      TypesFault place ((member? es "generics").getD (.arr [])) e → TypeFault place (.obj es) e

/-- The first fault of a value that should list types. The place of an item has its position. -/
inductive TypesFault : String → Json → Fault → Prop
  | listing {place : String} {j : Json} : j = .null ∨ j.isNumber = true →
      TypesFault place j (.misfit .listing)
  | item {place : String} {before after : List Json} {j : Json} {e : Fault} :
      (∀ b ∈ before, ∃ t, GivesType b t) → TypeFault s!"{place}<{before.length}>" j e →
      TypesFault place (.arr (before ++ j :: after)) e

end

/-- A value that is neither a text nor an object has no shape of a type. -/
theorem typeFault_iff_shape (hs : ∀ q, j ≠ .str q) (ho : ∀ es, j ≠ .obj es) :
    TypeFault place j e ↔ e = .typeShape place := by
  constructor
  · intro h
    cases h with
    | shape => rfl
    | generics => exact absurd rfl (ho _)
  · rintro rfl
    exact .shape hs fun es hj => absurd hj (ho es)

theorem typesFault_iff_listing (h : j = .null ∨ j.isNumber = true) :
    TypesFault place j e ↔ e = .misfit .listing := by
  constructor
  · intro hfault
    cases hfault with
    | listing => rfl
    | item => simp [Json.isNumber] at h
  · rintro rfl
    exact .listing h

mutual

/-- **The reader of types stops with the first fault.** -/
theorem typeOf_eq_error_iff : (place : String) → (j : Json) → (e : Fault) →
    (typeOf place j = .error e ↔ TypeFault place j e)
  | place, .str q, e => by
    rw [typeOf]
    constructor
    · intro h
      cases h
    · intro h
      cases h with
      | shape hq => exact absurd rfl (hq q)
  | place, .obj es, e => by
    rw [typeOf]
    constructor
    · -- The qualifier is read before the parameters, so its fault is the first.
      intro h
      split at h
      · next hq =>
        cases h
        refine .shape (by simp) ?_
        rintro _ ⟨⟩
        exact hq
      · next q hq =>
        split at h
        · next e' hgenerics =>
          cases h
          exact .generics hq ((genericsIn_eq_error_iff place es e).mp hgenerics)
        · cases h
    · intro h
      cases h with
      | shape _ hq => rw [hq es rfl]
      | generics hq hgenerics => rw [hq, (genericsIn_eq_error_iff place es e).mpr hgenerics]
  | place, .null, e | place, .bool b, e | place, .int n, e | place, .float x, e
  | place, .arr items, e => by
    rw [typeFault_iff_shape (by simp) (by simp)]
    simp [typeOf, eq_comm]

theorem genericsIn_eq_error_iff : (place : String) → (es : List (String × Json)) → (e : Fault) →
    (genericsIn place es = .error e ↔ TypesFault place ((member? es "generics").getD (.arr [])) e)
  | place, [], e => by
    have hnone : member? [] "generics" = none := rfl
    rw [genericsIn, hnone, Option.getD_none]
    refine iff_of_false (by simp) fun h => ?_
    generalize hitems : Json.arr [] = list at h
    cases h with
    | listing h => simp [← hitems, Json.isNumber] at h
    | item => simp at hitems
  | place, (k, j) :: rest, e => by
    rw [genericsIn]
    split
    · next h =>
      rw [member?_cons_last h, Option.getD_some]
      exact typesIn_eq_error_iff place j e
    · next h =>
      rw [member?_cons_skip h]
      exact genericsIn_eq_error_iff place rest e

theorem typesIn_eq_error_iff : (place : String) → (j : Json) → (e : Fault) →
    (typesIn place j = .error e ↔ TypesFault place j e)
  | place, .arr items, e => by
    rw [typesIn, typesOf_eq_error_iff place 0 items e]
    simp only [Nat.zero_add]
    constructor
    · rintro ⟨before, j, after, rfl, hbefore, hfault⟩
      exact .item hbefore hfault
    · intro h
      cases h with
      | listing h => simp [Json.isNumber] at h
      | item hbefore hfault => exact ⟨_, _, _, rfl, hbefore, hfault⟩
  | place, .str s, e | place, .obj es, e => by
    rw [typesIn]
    constructor
    · intro h
      cases h
    · intro h
      cases h with
      | listing h => simp [Json.isNumber] at h
  | place, .null, e | place, .bool b, e | place, .int n, e | place, .float x, e => by
    rw [typesFault_iff_listing (by simp [Json.isNumber])]
    simp [typesIn, eq_comm]

theorem typesOf_eq_error_iff : (place : String) → (n : Nat) → (items : List Json) → (e : Fault) →
    (typesOf place n items = .error e ↔ FirstAt (fun j => ∃ t, GivesType j t)
      (fun k j => TypeFault s!"{place}<{n + k}>" j e) items)
  | place, n, [], e => by
    rw [typesOf]
    exact iff_of_false (by simp) not_firstAt_nil
  | place, n, j :: rest, e => by
    have hrest := typesOf_eq_error_iff place (n + 1) rest e
    simp only [Nat.add_right_comm n 1, Nat.add_assoc n] at hrest
    rw [typesOf, firstAt_cons, ← hrest]
    dsimp only [Nat.add_zero]
    rw [← typeOf_eq_error_iff s!"{place}<{n}>" j e,
      ← exists_congr fun t => typeOf_eq_ok_iff s!"{place}<{n}>" j t]
    cases typeOf s!"{place}<{n}>" j with
    | error e' => simp
    | ok t => cases typesOf place (n + 1) rest <;> simp

end

/-- The first fault of a value that should give a field. -/
inductive FieldFault (place : String) : Json → Fault → Prop
  | shape {j : Json} : (∀ es, j ≠ .obj es) → FieldFault place j (.fieldShape place)
  | type {es : List (String × Json)} {e : Fault} :
      TypeFault place (.obj es) e → FieldFault place (.obj es) e
  | literals {es : List (String × Json)} : (∃ t, GivesType (.obj es) t) →
      (∀ literals : List String, (member? es "enum").getD (.arr []) ≠ .arr (literals.map .str)) →
      FieldFault place (.obj es) (.literalsShape place)

/-- **The reader of a field stops with the first fault.** -/
theorem fieldOf_eq_error_iff : fieldOf place name j = .error e ↔ FieldFault place j e := by
  cases j with
  | obj es =>
    rw [fieldOf]
    constructor
    · intro h
      split at h
      · next e' htype =>
        cases h
        exact .type ((typeOf_eq_error_iff place _ e).mp htype)
      · next t htype =>
        split at h
        · next hliterals =>
          -- The literals are looked at once the type has been read.
          cases h
          refine .literals ⟨t, (typeOf_eq_ok_iff place _ t).mp htype⟩ fun literals hl => ?_
          rw [textsOf?_eq_some_iff.mpr hl] at hliterals
          cases hliterals
        · cases h
    · intro h
      cases h with
      | shape ho => exact absurd rfl (ho es)
      | type htype => rw [(typeOf_eq_error_iff place _ e).mpr htype]
      | literals htype hl =>
        obtain ⟨t, ht⟩ := htype
        rw [(typeOf_eq_ok_iff place _ t).mpr ht]
        dsimp only
        cases htexts : textsOf? ((member? es "enum").getD (.arr [])) with
        | none => rfl
        | some literals => exact absurd (textsOf?_eq_some_iff.mp htexts) (hl literals)
  | _ =>
    constructor
    · intro h
      cases h
      exact .shape (by simp)
    · intro h
      cases h
      rfl

theorem FieldFault.not_givesField {f : Field} (h : FieldFault place j e) :
    ¬ GivesField name j f := by
  intro hf
  have hread : fieldOf place name j = .error e := fieldOf_eq_error_iff.mpr h
  rw [fieldOf_eq_ok_iff.mpr hf] at hread
  cases hread

/-- The reader of fields stops at the first one with a fault. -/
theorem fieldsOf_eq_error_iff : fieldsOf name es = .error e ↔
    FirstAt (fun d => ∃ f, GivesField d.1 d.2 f) (fun _ d => FieldFault s!"{name}.{d.1}" d.2 e)
      es := by
  induction es with
  | nil =>
    rw [fieldsOf]
    exact iff_of_false (by simp) not_firstAt_nil
  | cons d rest ih =>
    obtain ⟨key, data⟩ := d
    have hok : (∃ f, GivesField key data f) ↔
        ∃ f, fieldOf s!"{name}.{key}" key data = .ok f :=
      exists_congr fun f => fieldOf_eq_ok_iff.symm
    have herror : FieldFault s!"{name}.{key}" data e ↔
        fieldOf s!"{name}.{key}" key data = .error e := fieldOf_eq_error_iff.symm
    rw [fieldsOf, firstAt_cons, ← ih]
    dsimp only
    rw [hok, herror]
    cases fieldOf s!"{name}.{key}" key data with
    | error e' => simp
    | ok f => cases fieldsOf name rest <;> simp

/-! ## Components -/

theorem entriesOf_eq_error_iff {o : Option Json} :
    entriesOf o = .error e ↔ (∀ es, o.getD (.obj []) ≠ .obj es) ∧ e = .misfit .entries := by
  cases o with
  | none => simp [entriesOf]
  | some j => cases j <;> simp [entriesOf, eq_comm]

/-- The entries of an object have the fields of a component. -/
def HasFields (es : List (String × Json)) : Prop :=
  ∃ fes, (member? es "fields").getD (.obj []) = .obj fes ∧
    ∀ d ∈ Entries.ofList fes, ∃ f, GivesField d.1 d.2 f

/-- The entries have the fields of a component and, if there is a discriminator, a mapping with the
targets. What the targets are is not looked at. -/
inductive Offers (es : List (String × Json)) : Entries Json → Prop
  | plain : HasFields es → member? es "discriminator" = none → Offers es []
  | union {des mes : List (String × Json)} {field : Json} : HasFields es →
      member? es "discriminator" = some (.obj des) → member? des "field" = some field →
      (member? des "mapping").getD (.obj []) = .obj mes → Offers es (Entries.ofList mes)

/-- The first fault of a value that should give the component of the name, its targets left out. -/
inductive OwnFault (name : String) : Json → Fault → Prop
  | component {j : Json} : (∀ es, j ≠ .obj es) → OwnFault name j (.componentShape name)
  | fields {es : List (String × Json)} : (∀ fes, (member? es "fields").getD (.obj []) ≠ .obj fes) →
      OwnFault name (.obj es) (.misfit .entries)
  | field {es fes before after : List (String × Json)} {key : String} {j : Json} {e : Fault} :
      (member? es "fields").getD (.obj []) = .obj fes →
      Entries.ofList fes = before ++ (key, j) :: after →
      (∀ d ∈ before, ∃ f, GivesField d.1 d.2 f) → FieldFault s!"{name}.{key}" j e →
      OwnFault name (.obj es) e
  | discriminator {es : List (String × Json)} {j : Json} : HasFields es →
      member? es "discriminator" = some j →
      (∀ des, j = .obj des → member? des "field" = none) →
      OwnFault name (.obj es) (.discriminatorShape name)
  | mapping {es des : List (String × Json)} {field : Json} : HasFields es →
      member? es "discriminator" = some (.obj des) → member? des "field" = some field →
      (∀ mes, (member? des "mapping").getD (.obj []) ≠ .obj mes) →
      OwnFault name (.obj es) (.misfit .entries)

theorem HasFields.exists_read (h : HasFields es) (name : String) : ∃ fes fs,
    entriesOf (member? es "fields") = .ok fes ∧ fieldsOf name fes = .ok fs := by
  obtain ⟨fes, hfes, hall⟩ := h
  obtain ⟨fs, hfs⟩ := exists_forall₂ hall
  exact ⟨_, fs, entriesOf_eq_ok_iff.mpr ⟨fes, hfes, rfl⟩, fieldsOf_eq_ok_iff.mpr hfs⟩

/-- **A value has a fault of its own or offers targets.** -/
theorem ownFault_or_offers (name : String) (j : Json) :
    (∃ e, OwnFault name j e) ∨ ∃ es targets, j = .obj es ∧ Offers es targets := by
  by_cases hj : ∃ es, j = .obj es
  case neg => exact Or.inl ⟨_, .component (not_exists.mp hj)⟩
  obtain ⟨es, rfl⟩ := hj
  by_cases hfes : ∃ fes, (member? es "fields").getD (.obj []) = .obj fes
  case neg => exact Or.inl ⟨_, .fields (not_exists.mp hfes)⟩
  obtain ⟨fes, hfes⟩ := hfes
  cases hread : fieldsOf name (Entries.ofList fes) with
  | error e =>
    obtain ⟨before, ⟨key, data⟩, after, heq, hbefore, hfault⟩ := fieldsOf_eq_error_iff.mp hread
    exact Or.inl ⟨e, .field hfes heq hbefore hfault⟩
  | ok fs =>
    have hfields : HasFields es := by
      refine ⟨fes, hfes, fun d hd => ?_⟩
      obtain ⟨f, _, hf⟩ := exists_right_of_forall₂ (fieldsOf_eq_ok_iff.mp hread) hd
      exact ⟨f, hf⟩
    cases hd : member? es "discriminator" with
    | none => exact Or.inr ⟨es, [], rfl, .plain hfields hd⟩
    | some d =>
      by_cases hdes : ∃ des field, d = .obj des ∧ member? des "field" = some field
      case neg =>
        refine Or.inl ⟨_, .discriminator hfields hd fun des hdes' => ?_⟩
        by_contra hfield
        obtain ⟨field, hfield⟩ := Option.ne_none_iff_exists'.mp hfield
        exact hdes ⟨des, field, hdes', hfield⟩
      obtain ⟨des, field, rfl, hfield⟩ := hdes
      by_cases hmes : ∃ mes, (member? des "mapping").getD (.obj []) = .obj mes
      case neg => exact Or.inl ⟨_, .mapping hfields hd hfield (not_exists.mp hmes)⟩
      obtain ⟨mes, hmes⟩ := hmes
      exact Or.inr ⟨es, _, rfl, .union hfields hd hfield hmes⟩

/-- A value with a fault of its own is no component. -/
theorem OwnFault.not_isComponent (h : OwnFault name j e) :
    ¬ ∃ es, j = .obj es ∧ IsComponent es := by
  rintro ⟨es, rfl, ⟨fes, hfes, hfields⟩, hdisc⟩
  cases h with
  | component ho => exact ho es rfl
  | fields ho => exact ho fes hfes
  | @field _ _ before after key data _ hfes' heq _ hfault =>
    rw [hfes] at hfes'
    cases hfes'
    have hmem : (key, data) ∈ Entries.ofList fes := by
      rw [heq]
      exact List.mem_append_right before List.mem_cons_self
    obtain ⟨f, hf⟩ := hfields _ hmem
    exact hfault.not_givesField hf
  | discriminator _ hd hshape =>
    obtain ⟨des, field, _, rfl, hfield, _⟩ := hdisc _ hd
    rw [hshape des rfl] at hfield
    cases hfield
  | mapping _ hd _ hmapping =>
    obtain ⟨des, _, mes, hdes, _, hmes, _⟩ := hdisc _ hd
    cases hdes
    exact hmapping mes hmes

/-! ## Values that nothing checks -/

/-- A value in the place of a type holds, in itself or in a parameter at some depth, `generics` from
which no types can be listed. -/
inductive Unlistable : Json → Prop
  | generics {es : List (String × Json)} {j : Json} : member? es "generics" = some j →
      j = .null ∨ j.isNumber = true → Unlistable (.obj es)
  | item {es : List (String × Json)} {items : List Json} {j : Json} :
      member? es "generics" = some (.arr items) → j ∈ items → Unlistable j → Unlistable (.obj es)

/-- `Misplaced raw m`: a component has `fields` or a `mapping` that is no object, a field with
`generics` from which no types can be listed, or a target that can be no key. -/
inductive Misplaced (raw : Entries Json) : Misfit → Prop
  | fields {n : String} {es : List (String × Json)} : raw.get? n = some (.obj es) →
      (∀ fes, (member? es "fields").getD (.obj []) ≠ .obj fes) → Misplaced raw .entries
  | generics {n key : String} {es fes : List (String × Json)} {j : Json} :
      raw.get? n = some (.obj es) → (member? es "fields").getD (.obj []) = .obj fes →
      (key, j) ∈ Entries.ofList fes → Unlistable j → Misplaced raw .listing
  | mapping {n : String} {es des : List (String × Json)} : raw.get? n = some (.obj es) →
      member? es "discriminator" = some (.obj des) →
      (∀ mes, (member? des "mapping").getD (.obj []) ≠ .obj mes) → Misplaced raw .entries
  | target {n literal : String} {es : List (String × Json)} {targets : Entries Json} {j : Json} :
      raw.get? n = some (.obj es) → Offers es targets → (literal, j) ∈ targets →
      j.isKey = false → Misplaced raw .key

mutual

theorem TypeFault.unlistable {place : String} {j : Json} {e : Fault} :
    TypeFault place j e → ∀ m, e = .misfit m → m = .listing ∧ Unlistable j
  | .shape .., _, he => nomatch he
  | @TypeFault.generics _ es _ _ _ h, m, he => by
    obtain ⟨hm, hes⟩ := h.unlistable m he
    exact ⟨hm, hes es rfl⟩

theorem TypesFault.unlistable {place : String} {j : Json} {e : Fault} :
    TypesFault place j e → ∀ m, e = .misfit m → m = .listing ∧
      ∀ es, (member? es "generics").getD (.arr []) = j → Unlistable (.obj es)
  | .listing hj, m, he => by
    cases he
    refine ⟨rfl, fun es hes => ?_⟩
    rcases Option.getD_eq_iff.mp hes with hes | ⟨_, rfl⟩
    · exact .generics hes hj
    · simp [Json.isNumber] at hj
  | @TypesFault.item _ before _ _ _ _ h, m, he => by
    obtain ⟨hm, hj⟩ := h.unlistable m he
    refine ⟨hm, fun es hes => ?_⟩
    rcases Option.getD_eq_iff.mp hes with hes | ⟨_, hnil⟩
    · exact .item hes (List.mem_append_right before List.mem_cons_self) hj
    · simp at hnil

end

theorem OwnFault.misplaced {m : Misfit} (h : OwnFault name j (.misfit m))
    (hraw : raw.get? name = some j) : Misplaced raw m := by
  cases h with
  | fields ho => exact .fields hraw ho
  | mapping _ hd _ hmapping => exact .mapping hraw hd hmapping
  | @field _ fes before after key data _ hfes heq _ hfault =>
    have hmem : (key, data) ∈ Entries.ofList fes := by
      rw [heq]
      exact List.mem_append_right before List.mem_cons_self
    cases hfault with
    | type htype =>
      obtain ⟨rfl, hdata⟩ := htype.unlistable m rfl
      exact .generics hraw hfes hmem hdata

end Document
end ClassModel
