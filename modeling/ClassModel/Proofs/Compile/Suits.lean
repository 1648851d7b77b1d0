import ClassModel.Proofs.Compile.Imports

/-!
# What always succeeds

Where types are given by texts, the naming refuses none and the meta prefix is a text, fields
resolve, imports have an order, and so a plain component compiles (`exists_compileSingle`). The
class of a union can be put together once its variants are compiled (`exists_unionOf`): what it
imports is needed by fields, so it is texts again.
-/

set_option autoImplicit false

namespace ClassModel
namespace Compiler

variable {k : Compiler} {s : Schema} {inherit : Bool} {i l : s.Id} {w q : Json}
  {common lifted : List ResolvedField} {variants : List (Unfolding s.Id)} {parent : List String}
  {parts : List Part} {qs : List Json}

/-- What is asked of a compiler and a schema: the naming refuses no text, all types are given by
texts, and so is the meta prefix. -/
structure Suits (k : Compiler) (s : Schema) : Prop where
  naming : k.naming.IsTotal
  types : s.TextQualifiers
  metaPrefix : k.metaPrefix.isSet = true → ∃ text, k.metaPrefix = .str text

namespace Suits

theorem exists_isMeta (hk : k.Suits s) (n : String) : ∃ b, k.isMeta n = .ok b := by
  rw [isMeta]
  by_cases hset : k.metaPrefix.isSet = true
  · obtain ⟨text, htext⟩ := hk.metaPrefix hset
    rw [htext] at hset ⊢
    simp [hset]
  · simp [hset]

theorem exists_resolveFields (hk : k.Suits s) (l : s.Id) (w : Json) :
    ∃ rs, k.resolveFields w (s.component l).fields = .ok rs := by
  have hall : ∀ f ∈ (s.component l).fields.filter (k.emits w), ∃ r, k.resolveField f = .ok r := by
    intro f hf
    exact exists_resolveField hk.naming (hk.types l f (List.mem_filter.mp hf).1)
  obtain ⟨rs, hrs⟩ := exists_traverse_eq_ok hall
  exact ⟨rs, resolveFields_eq_ok_iff.mpr ⟨fun f _ => hk.exists_isMeta f.name, hrs⟩⟩

/-- What a field needs is a text, for a provided qualifier replaces a text by a text. -/
theorem qualifierOf_eq (hk : k.Suits s) {f : Field} (hf : f ∈ (s.component l).fields)
    {t : TypeRef} (ht : f.Mentions t) : ∃ text, k.qualifierOf t = .ok (.str text) := by
  obtain ⟨q, hq⟩ := hk.types l f hf t (mem_mentionedAll_iff_mentions.mpr ht)
  exact ⟨k.provided.getD q q, by rw [qualifierOf, hq]⟩

theorem text_of_needs (hk : k.Suits s) (h : k.Needs (s.component l) q) : ∃ text, q = .str text := by
  obtain ⟨f, hf, t, ht, hq⟩ := h
  obtain ⟨text, htext⟩ := hk.qualifierOf_eq hf ht
  rw [hq] at htext
  cases htext
  exact ⟨text, rfl⟩

theorem exists_componentImports (hk : k.Suits s) (l : s.Id) :
    ∃ qs, k.componentImports (s.component l) = .ok qs := by
  have hall : ∀ f ∈ (s.component l).fields, ∃ qs, k.fieldImports f = .ok qs := by
    intro f hf
    refine exists_traverse_eq_ok fun t ht => ?_
    obtain ⟨text, htext⟩ := hk.qualifierOf_eq hf (mem_mentionedAll_iff_mentions.mp ht)
    exact ⟨_, htext⟩
  obtain ⟨lists, hlists⟩ := exists_traverse_eq_ok hall
  exact ⟨lists.flatten, by rw [componentImports, hlists]⟩

theorem exists_headOf {ι : Type} {c : Component ι} (h : ∀ q ∈ qs, ∃ text, q = .str text) :
    ∃ head, headOf c qs = .ok head := by
  have htexts : qs.all (·.text?.isSome) = true := by
    rw [List.all_eq_true]
    intro q hq
    obtain ⟨text, rfl⟩ := h q hq
    rfl
  exact ⟨_, headOf_eq_ok_iff.mpr ⟨_, by rw [sortImports, htexts]; rfl, rfl⟩⟩

theorem exists_singleWith (hk : k.Suits s) (l : s.Id) (fields : List ResolvedField) :
    ∃ d, k.singleWith (s.component l) fields = .ok d := by
  obtain ⟨imports, hi⟩ := hk.exists_componentImports l
  obtain ⟨head, hh⟩ := exists_headOf (c := s.component l) fun q hq =>
    hk.text_of_needs ((mem_componentImports hi).mp hq)
  exact ⟨_, singleWith_eq_ok_iff.mpr ⟨imports, head, hi, hh, rfl⟩⟩

/-- **A plain component always compiles.** -/
theorem exists_compileSingle (hk : k.Suits s) (l : s.Id) :
    ∃ d, k.compileSingle (s.component l) = .ok d := by
  obtain ⟨fields, hf⟩ := hk.exists_resolveFields l .null
  obtain ⟨d, hd⟩ := hk.exists_singleWith l fields
  exact ⟨d, compileSingle_eq_ok_iff.mpr ⟨fields, hf, hd⟩⟩

/-- The class of a union can be put together once its variants are compiled. -/
theorem exists_unionOf (hk : k.Suits s) (hv : s.unfold i = .ok variants)
    (hparts : traverse (k.compileVariant s inherit w common) variants = .ok parts) :
    ∃ d, unionOf (s.component i) w parent lifted parts = .ok d := by
  have htexts : ∀ q ∈ parts.flatMap (·.imports), ∃ text, q = .str text := by
    intro q hq
    obtain ⟨p, hp, hq⟩ := List.mem_flatMap.mp hq
    obtain ⟨v, hm, hvp⟩ := exists_item_of_traverse hparts hp
    obtain ⟨j, _, hgrow⟩ := exists_left_of_forall₂ (Schema.forall₂_growsTo hv) hm
    obtain ⟨l, _, hl⟩ := (imports_of_growsTo v j w common p hgrow hvp).1 q hq
    exact hk.text_of_needs hl
  obtain ⟨head, hh⟩ := exists_headOf (c := s.component i) htexts
  exact ⟨_, unionOf_eq_ok_iff.mpr ⟨head, hh, rfl⟩⟩

end Suits

end Compiler
end ClassModel
