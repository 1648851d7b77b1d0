import ClassModel.Compile.Unfolding
import Mathlib.Data.List.Basic

/-!
# Unfolded unions and their leaves

The variants of a union form a tree, and what a union shares is decided by the leaves of that
tree. Two facts are used throughout: the leaves below a variant are leaves of the union
(`leaves_subset`), and where no two components share a name, keeping the first leaf of each name
loses no leaf (`mem_distinctLeaves_iff`).
-/

set_option autoImplicit false

namespace ClassModel
namespace Unfolding

variable {ι : Type}

/-- Induction on an unfolding: a union may use what holds of all its variants. -/
@[elab_as_elim]
theorem treeInduction {motive : Unfolding ι → Prop} (leaf : ∀ i, motive (.leaf i))
    (union : ∀ i variants, (∀ v ∈ variants, motive v) → motive (.union i variants))
    (u : Unfolding ι) : motive u :=
  match u with
  | .leaf i => leaf i
  | .union i variants => union i variants fun v _ => treeInduction leaf union v

theorem leavesAll_eq_flatMap (us : List (Unfolding ι)) : leavesAll us = us.flatMap leaves := by
  induction us with
  | nil => rfl
  | cons u rest ih => rw [leavesAll, ih, List.flatMap_cons]

theorem mem_leavesAll {us : List (Unfolding ι)} {l : ι} :
    l ∈ leavesAll us ↔ ∃ u ∈ us, l ∈ u.leaves := by
  rw [leavesAll_eq_flatMap, List.mem_flatMap]

/-- The leaves below a variant are leaves of the union that lists it. -/
theorem leaves_subset {us : List (Unfolding ι)} {i : ι} {variants : List (Unfolding ι)}
    (h : .union i variants ∈ us) : leavesAll variants ⊆ leavesAll us := by
  intro l hl
  refine mem_leavesAll.mpr ⟨_, h, ?_⟩
  rwa [leaves]

theorem mem_leavesAll_of_leaf {us : List (Unfolding ι)} {i : ι} (h : .leaf i ∈ us) :
    i ∈ leavesAll us :=
  mem_leavesAll.mpr ⟨_, h, by simp [leaves]⟩

end Unfolding

section FirstByName

variable {α : Type} {name : α → String}

theorem mem_of_mem_firstByName {seen : List String} {as : List α} {a : α}
    (h : a ∈ firstByName name seen as) : a ∈ as := by
  induction as generalizing seen with
  | nil => exact h
  | cons b rest ih =>
    rw [firstByName] at h
    split at h
    · exact List.mem_cons_of_mem _ (ih h)
    · rcases List.mem_cons.mp h with rfl | h
      · exact List.mem_cons_self
      · exact List.mem_cons_of_mem _ (ih h)

/-- An item whose name no other item has is kept. -/
theorem mem_firstByName {seen : List String} {as : List α} {a : α} (ha : a ∈ as)
    (hs : name a ∉ seen) (hu : ∀ b ∈ as, name b = name a → b = a) :
    a ∈ firstByName name seen as := by
  induction as generalizing seen with
  | nil => exact ha
  | cons b rest ih =>
    have hu' : ∀ c ∈ rest, name c = name a → c = a := fun c hc => hu c (List.mem_cons_of_mem _ hc)
    by_cases hba : name b = name a
    · have hb : b = a := hu b List.mem_cons_self hba
      subst hb
      rw [firstByName, if_neg (by simpa using hs)]
      exact List.mem_cons_self
    · have har : a ∈ rest := by
        rcases List.mem_cons.mp ha with rfl | ha
        · exact absurd rfl hba
        · exact ha
      rw [firstByName]
      split
      · exact ih har hs hu'
      · refine List.mem_cons_of_mem _ (ih har ?_ hu')
        rw [List.mem_cons]
        rintro (h | h)
        · exact hba h.symm
        · exact hs h

end FirstByName

namespace Schema

variable {s : Schema} {variants : List (Unfolding s.Id)} {l : s.Id}

theorem mem_of_mem_distinctLeaves (h : l ∈ s.distinctLeaves variants) :
    l ∈ Unfolding.leavesAll variants :=
  mem_of_mem_firstByName h

/-- Where no two components share a name, every leaf is a distinct one. -/
theorem mem_distinctLeaves_iff (hn : Function.Injective s.name) :
    l ∈ s.distinctLeaves variants ↔ l ∈ Unfolding.leavesAll variants :=
  ⟨mem_of_mem_distinctLeaves, fun h => mem_firstByName h (by simp) fun _ _ hb => hn hb⟩

end Schema
end ClassModel
