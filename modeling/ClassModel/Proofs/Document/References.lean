import ClassModel.Proofs.Document.Meaning
import ClassModel.Proofs.Schema.Reach

/-!
# What refers to what

The mapping of a component refers to other components, by name. `Refers` reads that off the entries
of a document, before anything is built, and it is the relation that a component's variants are in
once it is (`GivesComponent.refers_iff`). Two rules about it decide which documents can be built:
every name that is referred to is there (`Known`), and no component is referred to from itself, in
however many steps (`Acyclic`).

The rules make sense for values of the right shapes only. `WellShaped` lists these shapes, and a
value has them exactly if it gives a component (`exists_givesComponent_iff`).
-/

set_option autoImplicit false

namespace ClassModel
namespace Document

variable {raw : Entries Json} {es : List (String × Json)} {name n t : String} {j : Json}
  {f : Field} {fs : List Field} {c : Component String}

/-- The components of a document, as it has them. -/
def components? (document : Json) : Option (Entries Json) :=
  match document.field? "components" with
  | some (.obj es) => some (Entries.ofList es)
  | _ => none

theorem components?_eq_some_iff {document : Json} : components? document = some raw ↔
    ∃ es, document.field? "components" = some (.obj es) ∧ raw = Entries.ofList es := by
  rw [components?]
  constructor
  · intro h
    split at h
    · next es hes =>
      cases h
      exact ⟨es, hes, rfl⟩
    · cases h
  · rintro ⟨es, hes, rfl⟩
    rw [hes]

theorem nodup_keys_of_components? {document : Json} (h : components? document = some raw) :
    raw.keys.Nodup := by
  obtain ⟨es, _, rfl⟩ := components?_eq_some_iff.mp h
  exact Entries.nodup_keys_ofList es

/-! ## References -/

/-- `Refers raw n t`: the mapping of the component `n` lists `t`. -/
def Refers (raw : Entries Json) (n t : String) : Prop :=
  ∃ es des mes literal, raw.get? n = some (.obj es) ∧
    member? es "discriminator" = some (.obj des) ∧
    (member? des "mapping").getD (.obj []) = .obj mes ∧ (literal, .str t) ∈ Entries.ofList mes

/-- Every name that a mapping lists is there. -/
def Known (raw : Entries Json) : Prop := ∀ n t, Refers raw n t → t ∈ raw.keys

/-- No component comes back to itself along mappings. -/
def Acyclic (raw : Entries Json) : Prop := ∀ n, ¬ Relation.TransGen (Refers raw) n n

theorem Refers.mem_keys (h : Refers raw n t) : n ∈ raw.keys := by
  obtain ⟨es, _, _, _, hraw, _⟩ := h
  exact Entries.mem_keys_of_get? hraw

/-- **A component refers to the variants that it has.** -/
theorem GivesComponent.refers_iff (hc : GivesComponent n es c)
    (hraw : raw.get? n = some (.obj es)) :
    Refers raw n t ↔ t ∈ c.targets := by
  have hd := hc.discriminator
  rw [Component.targets, Component.mapping]
  constructor
  · rintro ⟨es', des, mes, literal, hraw', hdes, hmes, hm⟩
    rw [hraw] at hraw'
    cases hraw'
    rw [hdes] at hd
    generalize c.discriminator = d at hd ⊢
    cases hd with
    | object _ hmes' hmapping =>
      rw [hmes] at hmes'
      cases hmes'
      rw [hmapping, List.mem_map] at hm
      obtain ⟨e, he, heq⟩ := hm
      cases heq
      exact List.mem_map_of_mem he
  · intro ht
    generalize hdes : member? es "discriminator" = o at hd
    generalize c.discriminator = d at hd ht
    cases hd with
    | none => cases ht
    | @object des mes field mapping _ hmes hmapping =>
      obtain ⟨e, he, rfl⟩ := List.mem_map.mp ht
      refine ⟨es, des, mes, e.1, hraw, hdes, hmes, ?_⟩
      rw [hmapping]
      exact List.mem_map_of_mem (f := fun e : String × String => (e.1, Json.str e.2)) he

/-! ## Shapes -/

/-- The entries of an object have the shapes of those of a component: the fields are an object of
values that give fields, and a discriminator is an object with a field and a mapping to texts. -/
structure IsComponent (es : List (String × Json)) : Prop where
  fields : ∃ fes, (member? es "fields").getD (.obj []) = .obj fes ∧
    ∀ e ∈ Entries.ofList fes, ∃ f, GivesField e.1 e.2 f
  discriminator : ∀ j, member? es "discriminator" = some j → ∃ des field mes, j = .obj des ∧
    member? des "field" = some field ∧ (member? des "mapping").getD (.obj []) = .obj mes ∧
    ∀ e ∈ Entries.ofList mes, ∃ t, e.2 = .str t

/-- Every component has the shapes of one. -/
def WellShaped (raw : Entries Json) : Prop :=
  ∀ n j, raw.get? n = some j → ∃ es, j = .obj es ∧ IsComponent es

theorem GivesField.name_eq (h : GivesField name j f) : f.name = name := by
  cases h
  rfl

/-- Fields have the names under which their values stand. -/
theorem names_of_givesField (h : List.Forall₂ (fun e f => GivesField e.1 e.2 f) es fs) :
    fs.map (·.name) = Entries.keys es := by
  induction h with
  | nil => rfl
  | cons hf _ ih => rw [List.map_cons, ih, hf.name_eq, Entries.keys, Entries.keys, List.map_cons]

/-- **A value gives a component exactly if it has the shapes of one.** -/
theorem exists_givesComponent_iff : (∃ c, GivesComponent name es c) ↔ IsComponent es := by
  constructor
  · rintro ⟨c, _, _, ⟨fes, hfes, hfields⟩, hd⟩
    refine ⟨⟨fes, hfes, fun e he => ?_⟩, fun j hj => ?_⟩
    · obtain ⟨f, _, hf⟩ := exists_right_of_forall₂ hfields he
      exact ⟨f, hf⟩
    · rw [hj] at hd
      generalize c.discriminator = d at hd
      cases hd with
      | @object des mes field mapping hfield hmes hmapping =>
        refine ⟨des, field, mes, rfl, hfield, hmes, fun e he => ?_⟩
        rw [hmapping, List.mem_map] at he
        obtain ⟨e', _, rfl⟩ := he
        exact ⟨e'.2, rfl⟩
  · rintro ⟨⟨fes, hfes, hfields⟩, hd⟩
    obtain ⟨fs, hfs⟩ : ∃ fs, List.Forall₂ (fun e f => GivesField e.1 e.2 f)
        (Entries.ofList fes) fs := exists_forall₂ hfields
    have hdistinct : (fs.map (·.name)).Nodup := by
      rw [names_of_givesField hfs]
      exact Entries.nodup_keys_ofList fes
    obtain ⟨d, hd⟩ : ∃ d, GivesDiscriminator (member? es "discriminator") d := by
      cases hj : member? es "discriminator" with
      | none => exact ⟨none, .none⟩
      | some j =>
        obtain ⟨des, field, mes, rfl, hfield, hmes, htexts⟩ := hd j hj
        obtain ⟨mapping, hmapping⟩ : ∃ mapping : Entries String,
            List.Forall₂ (fun e e' => e = (e'.1, .str e'.2)) (Entries.ofList mes) mapping := by
          refine exists_forall₂ fun e he => ?_
          obtain ⟨t, ht⟩ := htexts e he
          exact ⟨(e.1, t), by rw [← ht]⟩
        rw [← List.forall₂_map_right_iff, List.forall₂_eq_eq_eq] at hmapping
        exact ⟨_, .object hfield hmes hmapping⟩
    exact ⟨⟨name, _, fs, d, hdistinct⟩, rfl, rfl, ⟨fes, hfes, hfs⟩, hd⟩

end Document
end ClassModel
