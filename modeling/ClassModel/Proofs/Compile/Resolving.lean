import ClassModel.Compile.Fields
import ClassModel.Proofs.Traverse

/-!
# The fields of a component, resolved

Resolving goes through the declared fields in order, leaves out meta fields and the discriminator
field, and turns each of the others into a resolved field (`resolveFields_eq_ok_iff`). What a
declared field turns into does not depend on the discriminator that is left out, so a component
seen from two unions shows the same fields except for those two names
(`mem_resolveFields_of_mem`).

A type all of whose qualifiers are texts always has a text, so fields with such types that resolve
under one discriminator resolve under every other (`exists_resolveFields`).
-/

set_option autoImplicit false

namespace ClassModel
namespace Compiler

variable {k : Compiler} {w w' : Json} {f : Field} {fs : List Field} {r : ResolvedField}
  {rs rs' : List ResolvedField}

/-- Does a class list the field, if the discriminator is `w`? -/
def emits (k : Compiler) (w : Json) (f : Field) : Bool :=
  (match k.isMeta f.name with
    | .ok isMeta => !isMeta
    | .error _ => false) && w.text? != some f.name

theorem emits_iff : k.emits w f = true ↔ k.isMeta f.name = .ok false ∧ w.text? ≠ some f.name := by
  rw [emits, Bool.and_eq_true, bne_iff_ne]
  refine and_congr_left fun _ => ?_
  cases k.isMeta f.name with
  | error m => simp
  | ok b => cases b <;> simp

/-- **Resolving is a traversal** of the emitted fields, once every name can be tested for the meta
prefix. -/
theorem resolveFields_eq_ok_iff :
    k.resolveFields w fs = .ok rs ↔
      (∀ f ∈ fs, ∃ b, k.isMeta f.name = .ok b) ∧
        traverse k.resolveField (fs.filter (k.emits w)) = .ok rs := by
  induction fs generalizing rs with
  | nil => simp [resolveFields]
  | cons f rest ih =>
    rw [resolveFields, List.forall_mem_cons]
    cases hm : k.isMeta f.name with
    | error m => simp
    | ok b =>
      have hb : (∃ b', (.ok b : Except Misfit Bool) = .ok b') := ⟨b, rfl⟩
      -- The test of a name may fail even for a field that is dropped, so it stands apart from the
      -- filter.
      cases b with
      | true =>
        have he : ¬ k.emits w f = true := fun h => by
          have hf := (emits_iff.mp h).1
          rw [hm] at hf
          cases hf
        rw [List.filter_cons_of_neg he]
        simp [ih]
      | false =>
        dsimp only
        split
        · next ht =>
          have he : ¬ k.emits w f = true := fun h => (emits_iff.mp h).2 ht
          rw [List.filter_cons_of_neg he, ih]
          simp
        · next ht =>
          rw [List.filter_cons_of_pos (emits_iff.mpr ⟨hm, ht⟩), traverse_cons_eq_ok]
          constructor
          · intro h
            split at h
            · cases h
            · next r hr =>
              split at h
              · cases h
              · next rs' hrs =>
                cases h
                obtain ⟨hall, htr⟩ := ih.mp hrs
                exact ⟨⟨hb, hall⟩, r, rs', hr, htr, rfl⟩
          · rintro ⟨⟨_, hall⟩, r, rs', hr, htr, rfl⟩
            rw [hr, ih.mpr ⟨hall, htr⟩]

theorem enumOf_eq_ok_iff {e : EnumClass} :
    k.enumOf f = .ok e ↔ k.naming.enumName f.name = .ok e.name ∧ e.literals = f.literals := by
  rw [enumOf]
  cases k.naming.enumName f.name with
  | error m => simp
  | ok name =>
    cases e
    simp [eq_comm]

/-- A field resolves to one that keeps its name and flag. Its type is that of its enumeration or,
without literals, the text of its type. -/
theorem resolveField_eq_ok_iff :
    k.resolveField f = .ok r ↔ ∃ type enum,
      (f.isEnum = true ∧ (∃ e, k.enumOf f = .ok e ∧ k.enumType f e = .ok type ∧ enum = some e) ∨
        f.isEnum = false ∧ k.appliedText f.type f.generics = .ok type ∧ enum = none) ∧
      r = { name := f.name, type, enum, required := f.required } := by
  rw [resolveField]
  cases f.isEnum with
  | true =>
    rw [if_pos rfl]
    cases he : k.enumOf f with
    | error m => simp
    | ok e =>
      cases ht : k.enumType f e with
      | error m => simp [ht]
      | ok type => simp [ht, eq_comm]
  | false =>
    rw [if_neg Bool.false_ne_true]
    cases k.appliedText f.type f.generics with
    | error m => simp
    | ok type => simp [eq_comm]

theorem name_of_resolveField (h : k.resolveField f = .ok r) : r.name = f.name := by
  obtain ⟨_, _, _, rfl⟩ := resolveField_eq_ok_iff.mp h
  rfl

/-- A resolved field is not abstract and not yet an override. -/
theorem isOverride_of_resolveField (h : k.resolveField f = .ok r) :
    r.isOverride = false ∧ r.isAbstract = false := by
  obtain ⟨_, _, _, rfl⟩ := resolveField_eq_ok_iff.mp h
  exact ⟨rfl, rfl⟩

/-! ## Which fields are resolved -/

/-- The resolved fields are those of the emitted declarations. -/
theorem mem_resolveFields (h : k.resolveFields w fs = .ok rs) :
    r ∈ rs ↔ ∃ f ∈ fs, k.isMeta f.name = .ok false ∧ w.text? ≠ some f.name ∧
      k.resolveField f = .ok r := by
  obtain ⟨_, ht⟩ := resolveFields_eq_ok_iff.mp h
  constructor
  · intro hr
    obtain ⟨f, hf, hfr⟩ := exists_item_of_traverse ht hr
    obtain ⟨hf, he⟩ := List.mem_filter.mp hf
    exact ⟨f, hf, (emits_iff.mp he).1, (emits_iff.mp he).2, hfr⟩
  · rintro ⟨f, hf, hm, hw, hfr⟩
    obtain ⟨r', hr', hfr'⟩ :=
      exists_result_of_traverse ht (List.mem_filter.mpr ⟨hf, emits_iff.mpr ⟨hm, hw⟩⟩)
    rw [hfr] at hfr'
    cases hfr'
    exact hr'

/-- `k.Shows fs n`: a field of the name is declared, and it is no meta field. -/
def Shows (k : Compiler) (fs : List Field) (n : String) : Prop :=
  k.isMeta n = .ok false ∧ ∃ f ∈ fs, f.name = n

/-- The names of the resolved fields are the shown ones other than the discriminator. -/
theorem exists_resolved_iff_shows (h : k.resolveFields w fs = .ok rs) {n : String} :
    (∃ r ∈ rs, r.name = n) ↔ k.Shows fs n ∧ w.text? ≠ some n := by
  constructor
  · rintro ⟨r, hr, rfl⟩
    obtain ⟨f, hf, hm, hw, hfr⟩ := (mem_resolveFields h).mp hr
    rw [name_of_resolveField hfr]
    exact ⟨⟨hm, f, hf, rfl⟩, hw⟩
  · rintro ⟨⟨hm, f, hf, rfl⟩, hw⟩
    obtain ⟨_, ht⟩ := resolveFields_eq_ok_iff.mp h
    obtain ⟨r, hr, hfr⟩ :=
      exists_result_of_traverse ht (List.mem_filter.mpr ⟨hf, emits_iff.mpr ⟨hm, hw⟩⟩)
    exact ⟨r, hr, name_of_resolveField hfr⟩

theorem isOverride_of_mem_resolveFields (h : k.resolveFields w fs = .ok rs) (hr : r ∈ rs) :
    r.isOverride = false ∧ r.isAbstract = false := by
  obtain ⟨f, _, _, _, hfr⟩ := (mem_resolveFields h).mp hr
  exact isOverride_of_resolveField hfr

/-- A field seen under one discriminator is seen under every other one that does not name it. -/
theorem mem_resolveFields_of_mem (h : k.resolveFields w fs = .ok rs)
    (h' : k.resolveFields w' fs = .ok rs') (hr : r ∈ rs) (hw : w'.text? ≠ some r.name) :
    r ∈ rs' := by
  obtain ⟨f, hf, hm, _, hfr⟩ := (mem_resolveFields h).mp hr
  rw [name_of_resolveField hfr] at hw
  exact (mem_resolveFields h').mpr ⟨f, hf, hm, hw, hfr⟩

end Compiler

/-! ## When resolving succeeds -/

/-- The types that a field refers to, at every depth of its parameters, are given by texts. -/
def Field.TextQualifiers (f : Field) : Prop :=
  ∀ t ∈ f.type :: Compiler.mentionedAll f.generics, ∃ q, t.qualifier = .str q

/-- All types of the schema are given by texts. -/
def Schema.TextQualifiers (s : Schema) : Prop :=
  ∀ i, ∀ f ∈ (s.component i).fields, f.TextQualifiers

/-- Whether all types are given by texts can be evaluated. -/
theorem Schema.textQualifiers_of_isSome {s : Schema}
    (h : ∀ i, ∀ f ∈ (s.component i).fields, ∀ t ∈ f.type :: Compiler.mentionedAll f.generics,
      t.qualifier.text?.isSome = true) : s.TextQualifiers := by
  intro i f hf t ht
  have hsome := h i f hf t ht
  cases hq : t.qualifier with
  | str q => exact ⟨q, rfl⟩
  | _ => rw [hq] at hsome; cases hsome

/-- The naming refuses no text, whether it is a qualifier, the name of a field, or a type with its
parameters. -/
structure Naming.IsTotal (n : Naming) : Prop where
  simpleName : ∀ q : String, ∃ name, n.simpleName (.str q) = .ok name
  enumName : ∀ field, ∃ name, n.enumName field = .ok name
  parameterize : ∀ base parameters, ∃ text, n.parameterize base parameters = .ok text

/-- A convention names everything that it can split. -/
theorem Convention.isTotal {n : Convention} (h : n.separator ≠ "") : n.naming.IsTotal where
  simpleName _ := ⟨_, if_neg h⟩
  enumName _ := ⟨_, rfl⟩
  parameterize _ _ := ⟨_, rfl⟩

namespace Compiler

variable {k : Compiler} {w : Json} {f : Field} {fs : List Field} {rs : List ResolvedField}

theorem exists_applied (hn : k.naming.IsTotal) (base : String) (parameters : List String) :
    ∃ text, k.applied base parameters = .ok text := by
  rw [applied]
  split
  · exact ⟨base, rfl⟩
  · exact hn.parameterize base parameters

/-- A text qualifier has a short name wherever the naming refuses nothing. -/
theorem exists_shortName {t : TypeRef} (hn : k.naming.IsTotal)
    (ht : ∃ q, t.qualifier = .str q) : ∃ n, k.shortName t = .ok n := by
  obtain ⟨q, hq⟩ := ht
  rw [shortName, qualifierOf, hq]
  exact hn.simpleName _

mutual

/-- A type has a text if all types that it mentions are given by texts. -/
theorem exists_typeText (hn : k.naming.IsTotal) : (t : TypeRef) →
    (∀ u ∈ mentioned t, ∃ q, u.qualifier = .str q) → ∃ text, k.typeText t = .ok text
  | ⟨q, kind, generics⟩, h => by
    rw [mentioned, List.forall_mem_cons] at h
    obtain ⟨base, hbase⟩ := exists_shortName (k := k) (t := ⟨q, kind, []⟩) hn h.1
    obtain ⟨parameters, hp⟩ := exists_typeTexts hn generics h.2
    obtain ⟨text, htext⟩ := exists_applied hn base parameters
    exact ⟨text, by rw [typeText, hbase, hp]; exact htext⟩

theorem exists_typeTexts (hn : k.naming.IsTotal) : (ts : List TypeRef) →
    (∀ u ∈ mentionedAll ts, ∃ q, u.qualifier = .str q) → ∃ texts, k.typeTexts ts = .ok texts
  | [], _ => ⟨[], by rw [typeTexts]⟩
  | t :: rest, h => by
    rw [mentionedAll] at h
    obtain ⟨text, ht⟩ := exists_typeText hn t fun u hu => h u (List.mem_append_right _ hu)
    obtain ⟨texts, hr⟩ := exists_typeTexts hn rest fun u hu => h u (List.mem_append_left _ hu)
    exact ⟨_, by rw [typeTexts, ht, hr]⟩

end

/-- A field whose types are given by texts can be resolved. -/
theorem exists_resolveField (hn : k.naming.IsTotal) (hf : f.TextQualifiers) :
    ∃ r, k.resolveField f = .ok r := by
  suffices h : ∃ type enum,
      (f.isEnum = true ∧ (∃ e, k.enumOf f = .ok e ∧ k.enumType f e = .ok type ∧ enum = some e) ∨
        f.isEnum = false ∧ k.appliedText f.type f.generics = .ok type ∧ enum = none) by
    obtain ⟨type, enum, h⟩ := h
    exact ⟨_, resolveField_eq_ok_iff.mpr ⟨type, enum, h, rfl⟩⟩
  cases hl : f.isEnum with
  | true =>
    obtain ⟨name, hname⟩ := hn.enumName f.name
    have he : k.enumOf f = .ok ⟨name, f.literals⟩ := enumOf_eq_ok_iff.mpr ⟨hname, rfl⟩
    suffices ht : ∃ type, k.enumType f ⟨name, f.literals⟩ = .ok type by
      obtain ⟨type, ht⟩ := ht
      exact ⟨type, _, .inl ⟨rfl, _, he, ht, rfl⟩⟩
    rw [enumType]
    split
    · obtain ⟨base, hbase⟩ := exists_shortName hn (hf f.type List.mem_cons_self)
      rw [hbase]
      exact hn.parameterize base [name]
    · exact ⟨name, rfl⟩
  | false =>
    obtain ⟨text, ht⟩ := exists_typeText hn ⟨f.type.qualifier, f.type.kind, f.generics⟩ <| by
      rw [mentioned, List.forall_mem_cons]
      exact ⟨hf f.type List.mem_cons_self, fun u hu => hf u (List.mem_cons_of_mem _ hu)⟩
    exact ⟨text, none, .inr ⟨rfl, ht, rfl⟩⟩

/-- Fields given by texts that resolve under one discriminator resolve under every one. -/
theorem exists_resolveFields (hn : k.naming.IsTotal) (hf : ∀ f ∈ fs, f.TextQualifiers)
    (h : k.resolveFields w fs = .ok rs) (w' : Json) : ∃ rs', k.resolveFields w' fs = .ok rs' := by
  obtain ⟨hm, _⟩ := resolveFields_eq_ok_iff.mp h
  have hall : ∀ f ∈ fs.filter (k.emits w'), ∃ r, k.resolveField f = .ok r :=
    fun f hm' => exists_resolveField hn (hf f (List.mem_filter.mp hm').1)
  obtain ⟨rs', ht⟩ := exists_traverse_eq_ok hall
  exact ⟨rs', resolveFields_eq_ok_iff.mpr ⟨hm, ht⟩⟩

end Compiler
end ClassModel
