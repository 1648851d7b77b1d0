import ClassModel.Proofs.Compile.ClassTree
import ClassModel.Proofs.Compile.Walks
import ClassModel.Proofs.Descriptor.Route

/-!
# Which component a class is compiled from

The subclasses of a union are compiled from the variants of its mapping, in the order of the
mapping, so the routes of a compiled tree are those of the mappings below its root: the class at
the end of a route is compiled from the component at the end of the same route
(`ClassOf.of_at?`), and there is a class wherever there is a component (`ClassOf.exists_at?`).
Laws that name the component of a class are stated with the two routes.
-/

set_option autoImplicit false

namespace ClassModel
namespace Compiler

variable {k : Compiler} {s : Schema} {inherit : Bool} {i j : s.Id} {d u : Descriptor}
  {w : Json} {common : List ResolvedField} {v : Unfolding s.Id} {p : Part} {route : List Nat}

/-- `ClassOf k s inherit j d`: `d` is a class of the component `j`, on its own or below a union. A
plain component gives a single class, a union that unfolds the class of its variants. -/
inductive ClassOf (k : Compiler) (s : Schema) (inherit : Bool) (j : s.Id) : Descriptor → Prop
  | single {fields : List ResolvedField} {d : Descriptor} :
      (s.component j).isUnion = false → k.singleWith (s.component j) fields = .ok d →
      ClassOf k s inherit j d
  | union {variants : List (Unfolding s.Id)} {parent : List String} {d : Descriptor} :
      (s.component j).isUnion = true → s.unfold j = .ok variants →
      UnionClass k s inherit j variants parent d → ClassOf k s inherit j d

theorem LeafClass.singleWith_eq {imports : List Json} {tag : String}
    (h : LeafClass k s w common j imports tag d) :
    ∃ fields, k.singleWith (s.component j) fields = .ok d := by
  obtain ⟨hi, _, hh, _⟩ := h
  exact ⟨_, singleWith_eq_ok_iff.mpr ⟨_, _, hi, hh, rfl⟩⟩

/-- What a variant brings holds a class of the component that the variant grows from. -/
theorem classOf_of_growsTo (hv : s.GrowsTo j v)
    (h : k.compileVariant s inherit w common v = .ok p) : ClassOf k s inherit j p.subclass := by
  cases hv with
  | leaf hj =>
    obtain ⟨_, _, _, hleaf, rfl⟩ := compileVariant_leaf_eq_ok_iff.mp h
    obtain ⟨_, hs⟩ := hleaf.singleWith_eq
    exact .single hj hs
  | union hj hu =>
    obtain ⟨_, _, _, hunion, rfl⟩ := compileVariant_union_eq_ok_iff.mp h
    exact .union hj hu hunion

theorem classOf_of_compile (h : k.compile s i inherit = .ok d) : ClassOf k s inherit i d := by
  rcases compile_eq_ok_iff.mp h with ⟨hi, variants, hv, hunion⟩ | ⟨hi, hc⟩
  · exact .union hi hv hunion
  · obtain ⟨_, _, hs⟩ := compileSingle_eq_ok_iff.mp hc
    exact .single hi hs

namespace ClassOf

theorem name_eq (h : ClassOf k s inherit j d) : d.name = s.name j := by
  cases h with
  | single _ hs =>
    obtain ⟨_, _, _, hh, rfl⟩ := singleWith_eq_ok_iff.mp hs
    exact name_of_headOf hh
  | union _ _ hunion => exact hunion.name_eq

theorem qualifier_eq (h : ClassOf k s inherit j d) :
    d.head.qualifier = (s.component j).qualifier := by
  cases h with
  | single _ hs =>
    obtain ⟨_, _, _, hh, rfl⟩ := singleWith_eq_ok_iff.mp hs
    obtain ⟨_, _, rfl⟩ := headOf_eq_ok_iff.mp hh
    rfl
  | union _ _ hunion =>
    obtain ⟨_, _, hh⟩ := hunion
    obtain ⟨_, _, rfl⟩ := headOf_eq_ok_iff.mp hh
    rfl

theorem isUnion_eq (h : ClassOf k s inherit j d) : d.isUnion = (s.component j).isUnion := by
  cases h with
  | single hj hs =>
    obtain ⟨_, _, _, _, rfl⟩ := singleWith_eq_ok_iff.mp hs
    rw [hj]
    rfl
  | union hj _ hunion => rw [hj, hunion.isUnion_eq]

/-- **The subclasses of a class are classes of the variants of its component**, position by
position. -/
theorem forall₂_subclasses (h : ClassOf k s inherit j d) :
    List.Forall₂ (ClassOf k s inherit) (s.component j).targets d.subclasses := by
  cases h with
  | single hj hs =>
    obtain ⟨_, _, _, _, rfl⟩ := singleWith_eq_ok_iff.mp hs
    have ht : (s.component j).targets = [] := by
      rw [List.eq_nil_iff_forall_not_mem]
      intro l hl
      rw [Component.isUnion_of_mem_targets hl] at hj
      cases hj
    rw [ht]
    exact .nil
  | union _ hu hunion =>
    obtain ⟨_, hparts, _⟩ := hunion
    have hgrow := Schema.forall₂_growsTo hu
    have hcompiled := traverse_eq_ok_iff.mp hparts
    rw [Descriptor.subclasses, List.forall₂_map_right_iff]
    -- From a variant to its tree, and from the tree to the part that holds the class.
    refine (comp_of_forall₂ hgrow hcompiled).imp ?_
    rintro l p ⟨v, hv, hp⟩
    exact classOf_of_growsTo hv hp

end ClassOf

/-- **The class at a route is compiled from the component at the same route.** -/
theorem ClassOf.of_at? (h : ClassOf k s inherit i d) (hu : d.at? route = some u) :
    ∃ j, s.follow? i route = some j ∧ ClassOf k s inherit j u := by
  induction route generalizing i d with
  | nil =>
    cases hu
    exact ⟨i, rfl, h⟩
  | cons n route ih =>
    obtain ⟨sub, hsub, hu⟩ := Descriptor.at?_cons_eq_some.mp hu
    obtain ⟨l, hl, hclass⟩ := exists_left_of_getElem? h.forall₂_subclasses hsub
    obtain ⟨j, hj, hc⟩ := ih hclass hu
    exact ⟨j, Schema.follow?_cons_eq_some.mpr ⟨l, hl, hj⟩, hc⟩

/-- **There is a class wherever a route leads to a component.** -/
theorem ClassOf.exists_at? (h : ClassOf k s inherit i d) (hj : s.follow? i route = some j) :
    ∃ u, d.at? route = some u ∧ ClassOf k s inherit j u := by
  induction route generalizing i d with
  | nil =>
    cases hj
    exact ⟨d, rfl, h⟩
  | cons n route ih =>
    obtain ⟨l, hl, hj⟩ := Schema.follow?_cons_eq_some.mp hj
    obtain ⟨sub, hsub, hclass⟩ := exists_right_of_getElem? h.forall₂_subclasses hl
    obtain ⟨u, hu, hc⟩ := ih hclass hj
    exact ⟨u, Descriptor.at?_cons_eq_some.mpr ⟨sub, hsub, hu⟩, hc⟩

end Compiler
end ClassModel
