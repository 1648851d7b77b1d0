import ClassModel.Proofs.Compile.ClassTree
import ClassModel.Proofs.Compile.CommonFields

/-!
# The unions above a leaf

Which of its fields a leaf overrides is decided by the union right above it alone, but a field may
be declared by any union above: each union lists only those of its common fields that the union
above it does not have. `Lineage` follows a leaf down from the root with what each union shares,
and two facts come by induction on it:

- a name that the last union shares is listed by some union on the way, unless it is shared above
  them all (`Lineage.origin`);
- a name that some union on the way lists is shared by the last one, unless it is the
  discriminator there (`Lineage.persists_of_listed`), since the leaves below a nested union are
  among those of the unions above it.

Every leaf of a compiled tree has a lineage (`lineage_of_site`).
-/

set_option autoImplicit false

namespace ClassModel
namespace Compiler

/-- `Lineage k s inherit l inner outer variants above`: the leaf `l` is below the unions `above`, of
which the first has the variants `variants`. `outer` are the fields shared by the union above all
of them, `inner` those shared by the last. -/
inductive Lineage (k : Compiler) (s : Schema) (inherit : Bool) (l : s.Id)
    (inner : List ResolvedField) :
    List ResolvedField → List (Unfolding s.Id) → List Descriptor → Prop
  | last {outer : List ResolvedField} {variants : List (Unfolding s.Id)} {u : Descriptor} :
      .leaf l ∈ variants →
      k.liftedFields s inherit u.discriminator variants = .ok inner →
      u.ownFields = inner.filter (fun f => !(outer.map (·.name)).contains f.name) →
      Lineage k s inherit l inner outer variants [u]
  | nested {outer full : List ResolvedField} {variants deeper : List (Unfolding s.Id)} {j : s.Id}
      {u : Descriptor} {above : List Descriptor} :
      .union j deeper ∈ variants →
      k.liftedFields s inherit u.discriminator variants = .ok full →
      u.ownFields = full.filter (fun f => !(outer.map (·.name)).contains f.name) →
      Lineage k s inherit l inner full deeper above →
      Lineage k s inherit l inner outer variants (u :: above)

variable {k : Compiler} {s : Schema} {inherit : Bool} {l : s.Id} {inner outer : List ResolvedField}
  {variants : List (Unfolding s.Id)} {above : List Descriptor}

/-- **Every leaf of a compiled union has a lineage**, and is compiled below the last union of it. -/
theorem lineage_of_site {d e : Descriptor} (hs : d.Site above e) (he : e.isUnion = false)
    {i : s.Id} (h : UnionClass k s inherit i variants (outer.map (·.name)) d) :
    ∃ l inner last imports tag, Lineage k s inherit l inner outer variants above ∧
      above.getLast? = some last ∧ LeafClass k s last.discriminator inner l imports tag e := by
  induction hs generalizing outer i variants with
  | root d =>
    rw [h.isUnion_eq] at he
    cases he
  | @under d sub e above hsub hs ih =>
    obtain ⟨lifted, hl, hown, hcases⟩ := h.subclass_cases
    rcases hcases sub hsub with ⟨l, imports, tag, hv, hleaf⟩ | ⟨j, deeper, hv, hunion⟩
    · have hroot : above = [] ∧ e = sub := by
        cases hleaf
        exact Descriptor.site_single hs
      obtain ⟨rfl, rfl⟩ := hroot
      exact ⟨l, lifted, d, imports, tag, .last hv hl hown, rfl, hleaf⟩
    · obtain ⟨l, inner, last, imports, tag, hline, hlast, hleaf⟩ := ih he hunion
      refine ⟨l, inner, last, imports, tag, .nested hv hl hown hline, ?_, hleaf⟩
      rw [List.getLast?_cons, hlast]
      rfl

namespace Lineage

/-- The leaf is among the leaves of the first union. -/
theorem mem_leaves (h : Lineage k s inherit l inner outer variants above) :
    l ∈ Unfolding.leavesAll variants := by
  induction h with
  | last hv _ _ => exact Unfolding.mem_leavesAll_of_leaf hv
  | nested hv _ _ _ ih => exact Unfolding.leaves_subset hv ih

/-- A field that a union on the way lists is one that the union shares, and the leaf is one of
those it is shared by. -/
theorem exists_shared (h : Lineage k s inherit l inner outer variants above) {u : Descriptor}
    (hu : u ∈ above) : ∃ us full, l ∈ Unfolding.leavesAll us ∧
      k.liftedFields s inherit u.discriminator us = .ok full ∧ ∀ g ∈ u.ownFields, g ∈ full := by
  induction h with
  | last hv hl hown =>
    rw [List.mem_singleton] at hu
    subst hu
    refine ⟨_, _, Unfolding.mem_leavesAll_of_leaf hv, hl, fun g hg => ?_⟩
    rw [hown] at hg
    exact List.mem_of_mem_filter hg
  | nested hv hl hown hrest ih =>
    rcases List.mem_cons.mp hu with rfl | hu
    · refine ⟨_, _, Unfolding.leaves_subset hv hrest.mem_leaves, hl, fun g hg => ?_⟩
      rw [hown] at hg
      exact List.mem_of_mem_filter hg
    · exact ih hu

/-- **Where a shared name comes from**: what the last union shares is listed by some union on the
way, or shared above them all. -/
theorem origin (h : Lineage k s inherit l inner outer variants above) {n : String}
    (hn : ∃ g ∈ inner, g.name = n) :
    (∃ g ∈ outer, g.name = n) ∨ ∃ u ∈ above, ∃ g ∈ u.ownFields, g.name = n := by
  -- What a union shares and the one above it does not, it lists itself.
  have listed : ∀ {full outer : List ResolvedField} {u : Descriptor},
      u.ownFields = full.filter (fun f => !(outer.map (·.name)).contains f.name) →
      (∃ g ∈ full, g.name = n) →
      (∃ g ∈ outer, g.name = n) ∨ ∃ g ∈ u.ownFields, g.name = n := by
    rintro full outer u hown ⟨g, hg, rfl⟩
    by_cases ho : g.name ∈ outer.map (·.name)
    · exact Or.inl (List.mem_map.mp ho)
    · refine Or.inr ⟨g, ?_, rfl⟩
      rw [hown]
      exact List.mem_filter.mpr ⟨hg, by simpa using ho⟩
  induction h with
  | last _ _ hown =>
    rcases listed hown hn with ho | hu
    · exact Or.inl ho
    · exact Or.inr ⟨_, List.mem_singleton_self _, hu⟩
  | nested _ _ hown _ ih =>
    rcases ih with hfull | ⟨u, hu, hg⟩
    · rcases listed hown hfull with ho | hu
      · exact Or.inl ho
      · exact Or.inr ⟨_, List.mem_cons_self, hu⟩
    · exact Or.inr ⟨u, List.mem_cons_of_mem _ hu, hg⟩

/-- A name that all leaves of the first union show is shared by the last one, unless it is the
discriminator there. -/
theorem persists (hn : Function.Injective s.name)
    (h : Lineage k s true l inner outer variants above) {n : String} {last : Descriptor}
    (hlast : above.getLast? = some last) (hw : last.discriminator.text? ≠ some n)
    (hall : ∀ j ∈ Unfolding.leavesAll variants, k.Shows (s.component j).fields n) :
    ∃ g ∈ inner, g.name = n := by
  induction h with
  | last hv hl _ =>
    cases hlast
    exact (exists_lifted_iff hn hl (Unfolding.mem_leavesAll_of_leaf hv)).mpr ⟨hall, hw⟩
  | nested hv _ _ hrest ih =>
    -- The leaves below are fewer, and the last union is the same.
    refine ih ?_ fun j hj => hall j (Unfolding.leaves_subset hv hj)
    cases hrest <;> simpa [List.getLast?_cons] using hlast

/-- **A name listed on the way is shared by the last union**, unless it is the discriminator
there. -/
theorem persists_of_listed (hn : Function.Injective s.name)
    (h : Lineage k s true l inner outer variants above) {u last : Descriptor} {g : ResolvedField}
    (hlast : above.getLast? = some last) (hu : u ∈ above) (hg : g ∈ u.ownFields)
    (hw : last.discriminator.text? ≠ some g.name) : ∃ g' ∈ inner, g'.name = g.name := by
  induction h with
  | last _ _ hown =>
    rw [List.mem_singleton] at hu
    subst hu
    rw [hown] at hg
    exact ⟨g, List.mem_of_mem_filter hg, rfl⟩
  | nested hv hl hown hrest ih =>
    rcases List.mem_cons.mp hu with rfl | hu
    · -- All leaves of `u` show the name, so it comes down to the last union.
      have hall := ((exists_lifted_iff hn hl (Unfolding.leaves_subset hv hrest.mem_leaves)).mp
        ⟨g, List.mem_of_mem_filter (hown ▸ hg), rfl⟩).1
      exact (Lineage.nested hv hl hown hrest).persists hn hlast hw hall
    · refine ih ?_ hu
      cases hrest <;> simpa [List.getLast?_cons] using hlast

/-- Without inheritance no union lists a field. -/
theorem ownFields_of_plain (h : Lineage k s false l inner outer variants above) :
    inner = [] ∧ ∀ u ∈ above, u.ownFields = [] := by
  induction h with
  | last _ hl hown =>
    rw [liftedFields_false] at hl
    cases hl
    refine ⟨rfl, fun u hu => ?_⟩
    rw [List.mem_singleton] at hu
    rw [hu, hown, List.filter_nil]
  | nested _ hl hown _ ih =>
    rw [liftedFields_false] at hl
    cases hl
    refine ⟨ih.1, fun u hu => ?_⟩
    rcases List.mem_cons.mp hu with rfl | hu
    · rw [hown, List.filter_nil]
    · exact ih.2 u hu

end Lineage
end Compiler
end ClassModel
