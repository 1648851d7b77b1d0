import ClassModel.Proofs.Entries
import ClassModel.Proofs.Schema.Reach
import Mathlib.Data.List.FinRange
import Mathlib.Data.List.OfFn

/-!
# From a catalog to a schema

A catalog names the variants of a component, and a schema holds them: a mapping of it leads to
components and not to names of components. `s.Ties catalog` says that the two agree. The schema has
the components of the catalog in order, and whatever a component of it holds is what the catalog
holds under the name that stands in its place.

Every catalog whose mappings list only keys of it is tied to a schema (`exists_ofCatalog`).
-/

set_option autoImplicit false

namespace ClassModel

/-! ## Renaming the variants of a component -/

namespace Component

variable {ι κ : Type} {f : ι → κ} {c : Component ι}

theorem targets_map : (c.map f).targets = c.targets.map f := by
  rw [targets, targets, mapping, mapping, map]
  cases c.discriminator with
  | none => rfl
  | some d => simp

theorem map_map {μ : Type} (g : κ → μ) : (c.map f).map g = c.map (g ∘ f) := by
  obtain ⟨_, _, _, d, _⟩ := c
  cases d with
  | none => rfl
  | some d => simp [map]

/-- Renaming that keeps the variants of a component keeps the component. -/
theorem map_eq_self {f : ι → ι} (h : ∀ j ∈ c.targets, f j = j) : c.map f = c := by
  obtain ⟨_, _, _, d, _⟩ := c
  cases d with
  | none => rfl
  | some d =>
    have hmapping : d.mapping.map (fun e => (e.1, f e.2)) = d.mapping := by
      refine (List.map_congr_left fun e he => ?_).trans (List.map_id _)
      have hkept : f e.2 = e.2 := h e.2 (List.mem_map_of_mem he)
      rw [hkept, id]
    rw [map, Option.map_some, hmapping]

end Component

/-! ## Tying -/

namespace Schema

variable {s : Schema} {catalog : Catalog} {i j : s.Id}

/-- `s.Ties catalog`: the schema has the components of the catalog, and holds a component where the
catalog holds the key of it. -/
structure Ties (s : Schema) (catalog : Catalog) : Prop where
  keys : s.keys = catalog.keys
  component : ∀ i, catalog.get? (s.key i) = some ((s.component i).map s.key)

theorem Ties.key_injective (h : s.Ties catalog) (hn : catalog.keys.Nodup) :
    Function.Injective s.key := by
  rw [← h.keys, Schema.keys, ids, ← List.ofFn_eq_map] at hn
  exact List.nodup_ofFn.mp hn

theorem unknownTarget?_eq_none_iff :
    unknownTarget? catalog = none ↔ ∀ e ∈ catalog, ∀ t ∈ e.2.targets, t ∈ catalog.keys := by
  simp [unknownTarget?, List.find?_eq_none]

/-- The position of a key of the catalog is where it stands. -/
theorem key_positionOf {t : String} (ht : t ∈ catalog.keys) (i : Fin catalog.length) :
    catalog[positionOf catalog i t].1 = t := by
  obtain ⟨e, he, rfl⟩ := List.mem_map.mp ht
  obtain ⟨n, hn, rfl⟩ := List.getElem_of_mem he
  cases hfind : (List.finRange catalog.length).find? fun j => catalog[j].1 = catalog[n].1 with
  | none =>
    have hnot := List.find?_eq_none.mp hfind ⟨n, hn⟩ (List.mem_finRange _)
    simp at hnot
  | some j =>
    have hj : catalog[j].1 = catalog[n].1 := by simpa using List.find?_some hfind
    simp only [positionOf, hfind, Option.getD_some, hj]

/-- **A catalog whose mappings list only keys of it is tied to a schema.** -/
theorem exists_ofCatalog (hn : catalog.keys.Nodup)
    (ht : ∀ e ∈ catalog, ∀ t ∈ e.2.targets, t ∈ catalog.keys) :
    ∃ s, ofCatalog catalog = .ok s ∧ s.Ties catalog := by
  rw [ofCatalog, unknownTarget?_eq_none_iff.mpr ht]
  refine ⟨tied catalog, rfl, ?_, fun (i : Fin catalog.length) => ?_⟩
  · rw [keys, ids, Entries.keys, ← List.ofFn_eq_map]
    exact List.ofFn_getElem_eq_map catalog Prod.fst
  · have hi : catalog[i] ∈ catalog := List.getElem_mem _
    have hkept : (catalog[i].2.map (positionOf catalog i)).map (fun j => catalog[j].1) =
        catalog[i].2 := by
      rw [Component.map_map]
      exact Component.map_eq_self fun t htarget => key_positionOf (ht _ hi t htarget) i
    show catalog.get? catalog[i].1 =
      some ((catalog[i].2.map (positionOf catalog i)).map fun j => catalog[j].1)
    rw [hkept]
    exact (Entries.get?_eq_some_iff hn).mpr hi

end Schema
end ClassModel
