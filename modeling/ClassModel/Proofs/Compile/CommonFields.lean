import ClassModel.Compile.ClassTree
import ClassModel.Proofs.Compile.Resolving
import ClassModel.Proofs.Compile.Unfolding
import Mathlib.Data.List.Nodup

/-!
# What the leaves of a union share

`commonFields` intersects names and then gathers the first field of each common name, checking the
shape of every later one. `Gathered` is the invariant of the gathering; from it come the two facts
that the laws of overriding rest on, stated for the fields that are lifted to a union:

- a name is lifted exactly if every leaf below the union shows it and it is not the discriminator
  (`exists_lifted_iff`), so a name lifted to a union is lifted to every union below it, unless it is
  the discriminator there;
- every leaf that shows a lifted name shows it in the lifted shape (`shape_of_lifted`).
-/

set_option autoImplicit false

namespace ClassModel

variable {found fs res : List ResolvedField} {leaves : List (List ResolvedField)}

/-- What gathering fields onto those found so far gives: nothing is lost, what is new is one of the
fields made abstract, each field has the name and shape of one that is kept, and no name is kept
twice. -/
structure Gathered (found fs res : List ResolvedField) : Prop where
  kept : ∀ g ∈ found, g ∈ res
  origin : ∀ g ∈ res, g ∈ found ∨ ∃ f ∈ fs, g = { f with isAbstract := true }
  agrees : ∀ f ∈ fs, ∃ g ∈ res, g.name = f.name ∧ g.shape = f.shape
  nodup : (res.map (·.name)).Nodup

/-- **Gathering keeps its invariant**: one step either finds the field's name, with its shape, or
puts the field at the end. -/
theorem gathered_of_ok (h : gatherCommon found fs = .ok res)
    (hn : (found.map (·.name)).Nodup) : Gathered found fs res := by
  induction fs generalizing found with
  | nil =>
    cases h
    exact ⟨fun _ hg => hg, fun _ hg => Or.inl hg, fun _ hf => absurd hf (by simp), hn⟩
  | cons f rest ih =>
    rw [gatherCommon] at h
    cases hf : found.find? (·.name = f.name) with
    | none =>
      -- A new name goes to the end, so no name is kept twice.
      rw [hf] at h
      have hnew : ∀ g ∈ found, g.name ≠ f.name := by simpa using List.find?_eq_none.mp hf
      have hn' : ((found ++ [{ f with isAbstract := true }]).map ResolvedField.name).Nodup := by
        rw [List.map_append, List.map_singleton, ← List.concat_eq_append]
        refine hn.concat fun hmem => ?_
        obtain ⟨g, hg, hname⟩ := List.mem_map.mp hmem
        exact hnew g hg hname
      have hr := ih h hn'
      have hmem : { f with isAbstract := true } ∈ res := hr.kept _ (by simp)
      refine ⟨fun g hg => hr.kept g (by simp [hg]), fun g hg => ?_, fun f' hf' => ?_, hr.nodup⟩
      · rcases hr.origin g hg with hg | ⟨f', hf', rfl⟩
        · rcases List.mem_append.mp hg with hg | hg
          · exact Or.inl hg
          · exact Or.inr ⟨f, List.mem_cons_self, List.mem_singleton.mp hg⟩
        · exact Or.inr ⟨f', List.mem_cons_of_mem _ hf', rfl⟩
      · rcases List.mem_cons.mp hf' with rfl | hf'
        · exact ⟨_, hmem, rfl, rfl⟩
        · exact hr.agrees f' hf'
    | some first =>
      -- A known name adds nothing; its shape is that of the field found before.
      rw [hf] at h
      dsimp only at h
      split at h
      · next hs =>
        have hfirst : first ∈ found := List.mem_of_find?_eq_some hf
        have hname : first.name = f.name := by simpa using List.find?_some hf
        have hr := ih h hn
        refine ⟨hr.kept, fun g hg => ?_, fun f' hf' => ?_, hr.nodup⟩
        · rcases hr.origin g hg with hg | ⟨f', hf', rfl⟩
          · exact Or.inl hg
          · exact Or.inr ⟨f', List.mem_cons_of_mem _ hf', rfl⟩
        · rcases List.mem_cons.mp hf' with rfl | hf'
          · exact ⟨first, hr.kept first hfirst, hname, hs⟩
          · exact hr.agrees f' hf'
      · cases h

/-- The fault of a name that was gathered in one shape and comes in another. -/
def CompileFault.IsConflict (e : CompileFault) : Prop :=
  ∃ first second, e = .schema (.conflictingField first second) ∧ first.name = second.name ∧
    first.shape ≠ second.shape

/-- Gathering fails only at a field whose name was found in another shape. -/
theorem conflict_of_gatherCommon {e : SchemaFault} (h : gatherCommon found fs = .error e) :
    (CompileFault.schema e).IsConflict := by
  induction fs generalizing found with
  | nil => cases h
  | cons f rest ih =>
    rw [gatherCommon] at h
    cases hf : found.find? (·.name = f.name) with
    | none =>
      rw [hf] at h
      exact ih h
    | some first =>
      rw [hf] at h
      dsimp only at h
      split at h
      · exact ih h
      · next hs =>
        cases h
        have hname : first.name = f.name := by simpa using List.find?_some hf
        exact ⟨first, f, rfl, hname, hs⟩

/-! ## Common fields of several lists -/

theorem isCommonName_iff {n : String} :
    isCommonName leaves n = true ↔ ∀ fs ∈ leaves, ∃ f ∈ fs, f.name = n := by
  simp [isCommonName]

theorem gathered_of_commonFields (h : commonFields leaves = .ok res) :
    Gathered [] (leaves.flatten.filter fun f => isCommonName leaves f.name) res :=
  gathered_of_ok h List.nodup_nil

/-- Each common field is a field of some list, made abstract. -/
theorem origin_of_commonFields (h : commonFields leaves = .ok res) {g : ResolvedField}
    (hg : g ∈ res) : isCommonName leaves g.name = true ∧
      ∃ fs ∈ leaves, ∃ f ∈ fs, g = { f with isAbstract := true } := by
  rcases (gathered_of_commonFields h).origin g hg with hg | ⟨f, hf, rfl⟩
  · exact absurd hg (by simp)
  · obtain ⟨hf, hc⟩ := List.mem_filter.mp hf
    obtain ⟨fs, hfs, hf⟩ := List.mem_flatten.mp hf
    exact ⟨hc, fs, hfs, f, hf, rfl⟩

/-- The common names are those that occur in every list. -/
theorem exists_commonField_iff (h : commonFields leaves = .ok res) (hne : leaves ≠ [])
    {n : String} : (∃ g ∈ res, g.name = n) ↔ ∀ fs ∈ leaves, ∃ f ∈ fs, f.name = n := by
  constructor
  · rintro ⟨g, hg, rfl⟩
    exact isCommonName_iff.mp (origin_of_commonFields h hg).1
  · intro hall
    obtain ⟨fs, hfs⟩ := List.exists_mem_of_ne_nil _ hne
    obtain ⟨f, hf, rfl⟩ := hall fs hfs
    have hmem : f ∈ leaves.flatten.filter fun f => isCommonName leaves f.name :=
      List.mem_filter.mpr ⟨List.mem_flatten.mpr ⟨fs, hfs, hf⟩, isCommonName_iff.mpr hall⟩
    obtain ⟨g, hg, hname, _⟩ := (gathered_of_commonFields h).agrees f hmem
    exact ⟨g, hg, hname⟩

/-- Every field of a common name has the shape of the common field. -/
theorem shape_of_commonFields (h : commonFields leaves = .ok res) {f g : ResolvedField}
    (hg : g ∈ res) (hfs : fs ∈ leaves) (hf : f ∈ fs) (hname : g.name = f.name) :
    g.shape = f.shape := by
  have hmem : f ∈ leaves.flatten.filter fun f => isCommonName leaves f.name :=
    List.mem_filter.mpr ⟨List.mem_flatten.mpr ⟨fs, hfs, hf⟩,
      hname ▸ (origin_of_commonFields h hg).1⟩
  obtain ⟨g', hg', hname', hs⟩ := (gathered_of_commonFields h).agrees f hmem
  have hgg : g = g' := List.inj_on_of_nodup_map (gathered_of_commonFields h).nodup hg hg'
    (hname.trans hname'.symm)
  rw [hgg, hs]

/-! ## The fields lifted to a union -/

namespace Compiler

variable {k : Compiler} {s : Schema} {w w' : Json} {variants : List (Unfolding s.Id)}
  {full rs : List ResolvedField} {l : s.Id}

theorem liftedFields_false : k.liftedFields s false w variants = .ok [] := rfl

/-- With inheritance, what is lifted are the common fields of the distinct leaves. -/
theorem liftedFields_eq_ok_iff :
    k.liftedFields s true w variants = .ok full ↔
      ∃ resolved, traverse (fun j => k.resolveFields w (s.component j).fields)
        (s.distinctLeaves variants) = .ok resolved ∧ commonFields resolved = .ok full := by
  rw [liftedFields, if_pos rfl, commonFieldsOf, traverse_map]
  cases traverse (fun j => k.resolveFields w (s.component j).fields)
      (s.distinctLeaves variants) with
  | error m => simp
  | ok resolved =>
    cases hc : commonFields resolved with
    | error e => simp [hc]
    | ok common => simp [hc]

/-- **Lifting fails only at a conflict**, once every leaf resolves under the discriminator. -/
theorem liftedFields_ok_or_conflict (hr : ∀ l ∈ Unfolding.leavesAll variants,
    ∃ rs, k.resolveFields w (s.component l).fields = .ok rs) :
    (∃ full, k.liftedFields s true w variants = .ok full) ∨
      ∃ e, e.IsConflict ∧ k.liftedFields s true w variants = .error e := by
  obtain ⟨resolved, ht⟩ :=
    exists_traverse_eq_ok fun l hl => hr l (s.mem_of_mem_distinctLeaves hl)
  rw [liftedFields, if_pos rfl, commonFieldsOf, traverse_map, ht]
  dsimp only
  cases hc : commonFields resolved with
  | ok common => exact Or.inl ⟨common, rfl⟩
  | error e => exact Or.inr ⟨_, conflict_of_gatherCommon hc, rfl⟩

/-- A lifted field is abstract and is not itself an override. -/
theorem isAbstract_of_lifted {inherit : Bool}
    (h : k.liftedFields s inherit w variants = .ok full) {g : ResolvedField} (hg : g ∈ full) :
    g.isAbstract = true ∧ g.isOverride = false := by
  cases inherit with
  | false =>
    rw [liftedFields_false] at h
    cases h
    exact absurd hg (by simp)
  | true =>
    obtain ⟨resolved, ht, hc⟩ := liftedFields_eq_ok_iff.mp h
    obtain ⟨_, fs, hfs, f, hf, rfl⟩ := origin_of_commonFields hc hg
    obtain ⟨j, _, hj⟩ := exists_item_of_traverse ht hfs
    exact ⟨rfl, (isOverride_of_mem_resolveFields hj hf).1⟩

/-- Every distinct leaf resolves under the union's discriminator, to one of the lists that the
common fields are taken from. -/
theorem exists_resolved_of_lifted (hn : Function.Injective s.name)
    (h : k.liftedFields s true w variants = .ok full) (hl : l ∈ Unfolding.leavesAll variants) :
    ∃ resolved rs, commonFields resolved = .ok full ∧ rs ∈ resolved ∧
      k.resolveFields w (s.component l).fields = .ok rs := by
  obtain ⟨resolved, ht, hc⟩ := liftedFields_eq_ok_iff.mp h
  obtain ⟨rs, hrs, hr⟩ := exists_result_of_traverse ht ((s.mem_distinctLeaves_iff hn).mpr hl)
  exact ⟨resolved, rs, hc, hrs, hr⟩

/-- **A name is lifted exactly if every leaf shows it** and it is not the discriminator. -/
theorem exists_lifted_iff (hn : Function.Injective s.name)
    (h : k.liftedFields s true w variants = .ok full) (hl : l ∈ Unfolding.leavesAll variants)
    {n : String} : (∃ g ∈ full, g.name = n) ↔
      (∀ j ∈ Unfolding.leavesAll variants, k.Shows (s.component j).fields n) ∧
        w.text? ≠ some n := by
  obtain ⟨resolved, ht, hc⟩ := liftedFields_eq_ok_iff.mp h
  have hdistinct : ∀ {j}, j ∈ s.distinctLeaves variants ↔ j ∈ Unfolding.leavesAll variants :=
    s.mem_distinctLeaves_iff hn
  -- With no leaf at all every name would be common.
  have hne : resolved ≠ [] := by
    obtain ⟨rs, hrs, _⟩ := exists_result_of_traverse ht (hdistinct.mpr hl)
    exact List.ne_nil_of_mem hrs
  rw [exists_commonField_iff hc hne]
  constructor
  · intro hall
    have hshow : ∀ j ∈ Unfolding.leavesAll variants,
        k.Shows (s.component j).fields n ∧ w.text? ≠ some n := by
      intro j hj
      obtain ⟨rs, hrs, hr⟩ := exists_result_of_traverse ht (hdistinct.mpr hj)
      exact (exists_resolved_iff_shows hr).mp (hall rs hrs)
    exact ⟨fun j hj => (hshow j hj).1, (hshow l hl).2⟩
  · rintro ⟨hshow, hw⟩ rs hrs
    obtain ⟨j, hj, hr⟩ := exists_item_of_traverse ht hrs
    exact (exists_resolved_iff_shows hr).mpr ⟨hshow j (hdistinct.mp hj), hw⟩

/-- **A leaf shows a lifted name in the lifted shape**, whatever discriminator is left out when
the leaf is resolved. -/
theorem shape_of_lifted (hn : Function.Injective s.name)
    (h : k.liftedFields s true w variants = .ok full) (hl : l ∈ Unfolding.leavesAll variants)
    (hr : k.resolveFields w' (s.component l).fields = .ok rs) {g r : ResolvedField}
    (hg : g ∈ full) (hmem : r ∈ rs) (hname : g.name = r.name) : g.shape = r.shape := by
  obtain ⟨resolved, rs', hc, hrs', hr'⟩ := exists_resolved_of_lifted hn h hl
  have hw : w.text? ≠ some r.name :=
    hname ▸ ((exists_lifted_iff hn h hl).mp ⟨g, hg, rfl⟩).2
  exact shape_of_commonFields hc hg hrs' (mem_resolveFields_of_mem hr hr' hmem hw) hname

end Compiler
end ClassModel
