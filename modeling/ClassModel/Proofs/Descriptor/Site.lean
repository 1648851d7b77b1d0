import ClassModel.Descriptor
import Mathlib.Data.List.Basic

/-!
# Sites of a class tree

A class of a tree stands below a list of unions, the root's first. `Site` is that relation, and
the laws of compiled trees are stated over it: "every leaf below a union" is a site whose list has
the union. Writers walk a tree by `placed`, which keeps only the union right above a class;
`mem_placed_iff` says that the two agree, so a law about sites is a law about what is written.
-/

set_option autoImplicit false

namespace ClassModel

/-- The head of a class of the given name, without a qualifier. Unless said otherwise, all that its
fields need are texts. -/
def ClassHead.named (name : String) (imports : List String := ["kotlin.String"]) : ClassHead :=
  ⟨name, .str "", imports.map .str⟩

namespace Descriptor

/-- The classes right below a class; a single class has none. -/
def subclasses : Descriptor → List Descriptor
  | .single _ _ => []
  | .union _ _ _ _ subclasses => subclasses

/-- `Site d above e`: the class `e` stands in the tree `d` below the unions `above`, the root's
first. -/
inductive Site : Descriptor → List Descriptor → Descriptor → Prop
  | root (d : Descriptor) : Site d [] d
  | under {d sub e : Descriptor} {above : List Descriptor} :
      sub ∈ d.subclasses → Site sub above e → Site d (d :: above) e

/-- Induction on a class tree: a union may use what holds of all its subclasses. -/
@[elab_as_elim]
theorem treeInduction {motive : Descriptor → Prop}
    (single : ∀ head fields, motive (.single head fields))
    (union : ∀ head discriminator common tags subclasses, (∀ e ∈ subclasses, motive e) →
      motive (.union head discriminator common tags subclasses)) (d : Descriptor) : motive d :=
  match d with
  | .single head fields => single head fields
  | .union head discriminator common tags subclasses =>
    union head discriminator common tags subclasses fun e _ => treeInduction single union e

/-! ## Sites and the classes that writers see -/

theorem placedAll_eq_flatMap (above : Option Descriptor) (ds : List Descriptor) :
    placedAll above ds = ds.flatMap (placed above) := by
  induction ds with
  | nil => rfl
  | cons d rest ih => rw [placedAll, ih, List.flatMap_cons]

/-- Only a single class stands at the root of a single class. -/
theorem site_single {head : ClassHead} {fields : List ResolvedField} {above : List Descriptor}
    {e : Descriptor} (h : Site (.single head fields) above e) :
    above = [] ∧ e = .single head fields := by
  cases h with
  | root => exact ⟨rfl, rfl⟩
  | under hs _ => exact absurd hs (by simp [subclasses])

/-- Only unions have classes below them, and each of them stands at a site of its own. -/
theorem Site.of_mem_above {d e u : Descriptor} {above : List Descriptor} (h : Site d above e)
    (hu : u ∈ above) :
    u.isUnion = true ∧ ∃ pre post, above = pre ++ u :: post ∧ Site d pre u := by
  induction h with
  | root => exact absurd hu (by simp)
  | @under d sub e above hsub hs ih =>
    rcases List.mem_cons.mp hu with rfl | hu
    · refine ⟨?_, [], above, rfl, .root _⟩
      cases u with
      | single => exact absurd hsub (by simp [subclasses])
      | union => rfl
    · obtain ⟨hunion, pre, post, rfl, hsite⟩ := ih hu
      exact ⟨hunion, d :: pre, post, rfl, .under hsub hsite⟩

/-- **The classes of a tree are those at its sites**, each with the last union above it; `top` is
the union above the whole tree. -/
theorem mem_placed_iff {d e : Descriptor} {a top : Option Descriptor} :
    (a, e) ∈ d.placed top ↔ ∃ above, Site d above e ∧ a = above.getLast?.or top := by
  induction d using treeInduction generalizing a top with
  | single head fields =>
    rw [placed, List.mem_singleton, Prod.mk.injEq]
    constructor
    · rintro ⟨rfl, rfl⟩
      exact ⟨[], .root _, rfl⟩
    · rintro ⟨above, hs, rfl⟩
      obtain ⟨rfl, rfl⟩ := site_single hs
      exact ⟨rfl, rfl⟩
  | union head discriminator common tags subs ih =>
    rw [placed, placedAll_eq_flatMap, List.mem_cons, List.mem_flatMap]
    constructor
    · rintro (he | ⟨sub, hsub, hm⟩)
      · obtain ⟨rfl, rfl⟩ := Prod.mk.injEq .. ▸ he
        exact ⟨[], .root _, rfl⟩
      · obtain ⟨above, hs, rfl⟩ := (ih sub hsub).mp hm
        refine ⟨_ :: above, .under hsub hs, ?_⟩
        cases above <;> simp [List.getLast?_cons]
    · rintro ⟨above, hs, rfl⟩
      cases hs with
      | root => exact Or.inl rfl
      | @under _ sub _ above hsub hs =>
        refine Or.inr ⟨sub, hsub, (ih sub hsub).mpr ⟨above, hs, ?_⟩⟩
        cases above <;> simp [List.getLast?_cons]

/-- Above a tree of its own there is no union. -/
theorem mem_placed_none_iff {d e : Descriptor} {a : Option Descriptor} :
    (a, e) ∈ d.placed none ↔ ∃ above, Site d above e ∧ a = above.getLast? := by
  simp only [mem_placed_iff, Option.or_none]

end Descriptor
end ClassModel
