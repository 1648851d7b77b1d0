import ClassModel.Proofs.Compile.Overriding

/-!
# Compiling with and without inheritance

Inheritance moves the common fields of a union to its class and marks them in the leaves. Nothing
else of a tree depends on it: not the unfolding, the tags or the imports. So the two runs of the
compiler are compared variant by variant.

- A run with inheritance that succeeds is followed by the run without it, and `Lifted` relates the
  two trees (`compileVariant_lifted`).
- The other way the run with inheritance can stop at a union whose leaves declare a common field
  in two shapes, and nowhere else (`compileVariant_ok_or_conflict`). That the common fields can be
  taken at all needs every leaf to resolve under the discriminator of every union above it; the
  plain run has resolved it under that of one union only, and what it takes to get from one to the
  others is that qualifiers are texts.
-/

set_option autoImplicit false

namespace ClassModel

/-- `Lifted t p`: the tree `t` is the tree `p` with common fields lifted to its unions. The two
agree on heads, discriminators and tags; the plain tree has no common field and no override, and a
leaf of `t` has the fields of the leaf of `p`, some of them marked and put first. -/
inductive Lifted : Descriptor → Descriptor → Prop
  | single {head : ClassHead} {plain : List ResolvedField} (marked : ResolvedField → Bool) :
      (∀ f ∈ plain, f.isOverride = false) →
      Lifted
        (.single head ((plain.filter marked).map (fun f => { f with isOverride := true }) ++
          plain.filter fun f => !marked f))
        (.single head plain)
  | union {head : ClassHead} {w : Json} {common : List ResolvedField} {tags : Entries String}
      {subs plains : List Descriptor} :
      List.Forall₂ Lifted subs plains →
      Lifted (.union head w common tags subs) (.union head w [] tags plains)

theorem Lifted.head_eq {t p : Descriptor} (h : Lifted t p) : t.head = p.head := by
  cases h <;> rfl

theorem Lifted.tags_eq {t p : Descriptor} (h : Lifted t p) : t.tags = p.tags := by
  cases h <;> rfl

/-- A tree without unions and marked fields is its own plain tree. -/
theorem Lifted.refl_single {head : ClassHead} {fields : List ResolvedField}
    (h : ∀ f ∈ fields, f.isOverride = false) :
    Lifted (.single head fields) (.single head fields) := by
  simpa using Lifted.single (fun _ => false) h

namespace Compiler

variable {k : Compiler} {s : Schema} {i : s.Id} {w : Json} {common : List ResolvedField}
  {parent : List String} {variants : List (Unfolding s.Id)} {d : Descriptor} {p q : Part}

/-! ## From lifted to plain -/

/-- Marking and sorting is a stable partition. -/
theorem overridesFirst_eq {fs : List ResolvedField} (h : ∀ f ∈ fs, f.isOverride = false) :
    overridesFirst common fs =
      (fs.filter fun f => common.any (·.name = f.name)).map
          (fun f => { f with isOverride := true }) ++
        fs.filter fun f => !common.any (·.name = f.name) := by
  rw [overridesFirst, List.filter_map, List.filter_map]
  congr 1
  · -- Among the marked fields the mark is true.
    refine List.map_congr_left fun f hf => ?_
    have hm : common.any (·.name = f.name) = true := (List.mem_filter.mp hf).2
    rw [hm]
  · -- Among the others it is false, as it was.
    refine (List.map_congr_left fun f hf => ?_).trans (List.map_id _)
    have hm : (!common.any (·.name = f.name)) = true := (List.mem_filter.mp hf).2
    have ho : f.isOverride = common.any (·.name = f.name) := by
      rw [h f (List.mem_filter.mp hf).1]
      simpa using hm
    rw [← ho]
    rfl

/-- A leaf keeps its class but for the marks. -/
theorem LeafClass.lifted {l : s.Id} {imports : List Json} {tag : String}
    (h : LeafClass k s w common l imports tag d) :
    ∃ d', LeafClass k s w [] l imports tag d' ∧ Lifted d d' := by
  obtain ⟨hi, hf, hh, ht⟩ := h
  have hplain := fun f hm => (isOverride_of_mem_resolveFields (r := f) hf hm).1
  refine ⟨_, .intro hi hf hh ht, ?_⟩
  rw [overridesFirst_eq hplain, overridesFirst_eq hplain]
  simpa using Lifted.single _ hplain

/-- `p.Lifts q`: the parts agree on imports and tags, and their classes are related. -/
structure Part.Lifts (p q : Part) : Prop where
  imports : p.imports = q.imports
  tags : p.tags = q.tags
  subclass : Lifted p.subclass q.subclass

theorem Part.Lifts.all {ps qs : List Part} (h : List.Forall₂ Part.Lifts ps qs) :
    ps.flatMap (·.imports) = qs.flatMap (·.imports) ∧
      (∀ tags : Entries String, ps.foldl (fun tags p => tags.merge p.tags) tags =
        qs.foldl (fun tags p => tags.merge p.tags) tags) ∧
      List.Forall₂ Lifted (ps.map (·.subclass)) (qs.map (·.subclass)) := by
  induction h with
  | nil => exact ⟨rfl, fun _ => rfl, .nil⟩
  | cons hpq _ ih =>
    obtain ⟨himports, htags, hsubs⟩ := ih
    refine ⟨?_, fun tags => ?_, .cons hpq.subclass hsubs⟩
    · rw [List.flatMap_cons, List.flatMap_cons, hpq.imports, himports]
    · rw [List.foldl_cons, List.foldl_cons, hpq.tags, htags]

/-- The class of a union follows once all its variants do. -/
theorem UnionClass.lifted
    (hv : ∀ v ∈ variants, ∀ w common p, k.compileVariant s true w common v = .ok p →
      ∃ q, k.compileVariant s false w [] v = .ok q ∧ p.Lifts q)
    (h : UnionClass k s true i variants parent d) (parent' : List String) :
    ∃ d', UnionClass k s false i variants parent' d' ∧ Lifted d d' := by
  obtain ⟨_, ht, hh⟩ := h
  -- The plain union shares nothing, so its variants are compiled with no common fields.
  obtain ⟨qs, hqs, hrel⟩ := exists_related_traverse (fun v hm p hp => hv v hm _ _ p hp) ht
  obtain ⟨himports, htags, hsubs⟩ := Part.Lifts.all hrel
  rw [himports] at hh
  refine ⟨_, .intro liftedFields_false hqs hh, ?_⟩
  rw [htags]
  exact .union hsubs

/-- **What a variant brings with inheritance, it brings without**, in a class that is the same but
for the lifted fields. -/
theorem compileVariant_lifted (u : Unfolding s.Id) :
    ∀ w common p, k.compileVariant s true w common u = .ok p →
      ∃ q, k.compileVariant s false w [] u = .ok q ∧ p.Lifts q := by
  induction u using Unfolding.treeInduction with
  | leaf l =>
    intro w common p h
    obtain ⟨imports, tag, d, hleaf, rfl⟩ := compileVariant_leaf_eq_ok_iff.mp h
    obtain ⟨d', hleaf', hd⟩ := hleaf.lifted
    exact ⟨_, compileVariant_leaf_eq_ok_iff.mpr ⟨imports, tag, d', hleaf', rfl⟩, rfl, rfl, hd⟩
  | union i variants ih =>
    intro w common p h
    obtain ⟨imports, d, hi, hunion, rfl⟩ := compileVariant_union_eq_ok_iff.mp h
    obtain ⟨d', hunion', hd⟩ := hunion.lifted ih (([] : List ResolvedField).map (·.name))
    refine ⟨_, compileVariant_union_eq_ok_iff.mpr ⟨imports, d', hi, hunion', rfl⟩, ?_, ?_, hd⟩
    · dsimp only
      rw [hd.head_eq]
    · exact hd.tags_eq

/-! ## From plain to lifted -/

/-- A leaf that was compiled has been resolved, under some discriminator. -/
theorem exists_resolved_of_leaf {inherit : Bool} {l : s.Id} (u : Unfolding s.Id) :
    ∀ w common p, k.compileVariant s inherit w common u = .ok p → l ∈ u.leaves →
      ∃ w' rs, k.resolveFields w' (s.component l).fields = .ok rs := by
  induction u using Unfolding.treeInduction with
  | leaf j =>
    intro w common p h hl
    rw [Unfolding.leaves, List.mem_singleton] at hl
    subst hl
    obtain ⟨_, _, _, ⟨_, hf, _, _⟩, _⟩ := compileVariant_leaf_eq_ok_iff.mp h
    exact ⟨w, _, hf⟩
  | union j variants ih =>
    intro w common p h hl
    rw [Unfolding.leaves] at hl
    obtain ⟨_, _, _, ⟨_, ht, _⟩, _⟩ := compileVariant_union_eq_ok_iff.mp h
    obtain ⟨v, hv, hl⟩ := Unfolding.mem_leavesAll.mp hl
    obtain ⟨p', _, hp'⟩ := exists_result_of_traverse ht hv
    exact ih v hv _ _ p' hp' hl

/-- `UnionStops k s i variants e`: with inheritance, the common fields of the union or its first
variants stop with the fault `e`. -/
def UnionStops (k : Compiler) (s : Schema) (i : s.Id) (variants : List (Unfolding s.Id))
    (e : CompileFault) : Prop :=
  k.liftedFields s true (s.component i).tagField variants = .error e ∨
    ∃ lifted, k.liftedFields s true (s.component i).tagField variants = .ok lifted ∧
      traverse (k.compileVariant s true (s.component i).tagField lifted) variants = .error e

theorem compileVariant_of_stops {e : CompileFault} {imports : List Json}
    (hi : k.componentImports (s.component i) = .ok imports) (h : UnionStops k s i variants e) :
    k.compileVariant s true w common (.union i variants) = .error e := by
  have hw : ((s.component i).discriminator.map (·.field)).getD .null
      = (s.component i).tagField := rfl
  simp only [compileVariant, compileVariants_eq_traverse, hw]
  rw [hi]
  dsimp only
  rcases h with hl | ⟨lifted, hl, ht⟩
  · rw [hl]
  · rw [hl]
    dsimp only
    rw [ht]

theorem compile_of_stops {e : CompileFault} (hu : (s.component i).isUnion = true)
    (hv : s.unfold i = .ok variants) (h : UnionStops k s i variants e) :
    k.compile s i true = .error e := by
  rw [compile, if_pos hu, compileUnion, Schema.requireUnion]
  cases hc : (s.component i).discriminator with
  | none => simp [Component.isUnion, hc] at hu
  | some disc =>
    have hw : disc.field = (s.component i).tagField := by simp [Component.tagField, hc]
    dsimp only
    rw [hv, hw]
    dsimp only
    rcases h with hl | ⟨lifted, hl, ht⟩
    · rw [hl]
    · rw [hl]
      dsimp only
      rw [compileVariants_eq_traverse, ht]

/-- The class of a union with lifted fields exists if the plain one does, or there is a
conflict. -/
theorem UnionClass.lifts_or_stops
    (hr : ∀ l ∈ Unfolding.leavesAll variants,
      ∃ rs, k.resolveFields (s.component i).tagField (s.component l).fields = .ok rs)
    (hv : ∀ v ∈ variants, ∀ w common q, k.compileVariant s false w [] v = .ok q →
      (∃ p, k.compileVariant s true w common v = .ok p) ∨
        ∃ e, e.IsConflict ∧ k.compileVariant s true w common v = .error e)
    (h : UnionClass k s false i variants parent d) (parent' : List String) :
    (∃ d', UnionClass k s true i variants parent' d') ∨
      ∃ e, e.IsConflict ∧ UnionStops k s i variants e := by
  obtain ⟨hl, ht, hh⟩ := h
  rw [liftedFields_false] at hl
  cases hl
  rcases liftedFields_ok_or_conflict hr with ⟨full, hfull⟩ | ⟨e, he, hstop⟩
  · have hstep : ∀ v ∈ variants,
        (∃ p, k.compileVariant s true (s.component i).tagField full v = .ok p) ∨ ∃ e,
          e.IsConflict ∧ k.compileVariant s true (s.component i).tagField full v = .error e := by
      intro v hm
      obtain ⟨q, _, hq⟩ := exists_result_of_traverse ht hm
      exact hv v hm _ full q hq
    rcases traverse_ok_or hstep with ⟨ps, hps⟩ | ⟨e, he, hstop⟩
    · -- The plain parts are those that follow the lifted ones, so the imports are the same.
      obtain ⟨qs, hqs, hrel⟩ :=
        exists_related_traverse (fun v _ p hp => compileVariant_lifted v _ _ p hp) hps
      rw [ht] at hqs
      cases hqs
      rw [← (Part.Lifts.all hrel).1] at hh
      exact Or.inl ⟨_, .intro hfull hps hh⟩
    · exact Or.inr ⟨e, he, Or.inr ⟨full, hfull, hstop⟩⟩
  · exact Or.inr ⟨e, he, Or.inl hstop⟩

/-- The leaves of a union that was compiled can be resolved under its discriminator. -/
theorem UnionClass.exists_resolved {inherit : Bool} (hn : k.naming.IsTotal)
    (htext : s.TextQualifiers) (h : UnionClass k s inherit i variants parent d) :
    ∀ l ∈ Unfolding.leavesAll variants,
      ∃ rs, k.resolveFields (s.component i).tagField (s.component l).fields = .ok rs := by
  intro l hl
  obtain ⟨_, ht, _⟩ := h
  obtain ⟨v, hv, hl⟩ := Unfolding.mem_leavesAll.mp hl
  obtain ⟨p, _, hp⟩ := exists_result_of_traverse ht hv
  obtain ⟨w, rs, hrs⟩ := exists_resolved_of_leaf v _ _ p hp hl
  exact exists_resolveFields hn (htext l) hrs _

/-- **A variant that compiles without inheritance compiles with it**, or there is a conflict. -/
theorem compileVariant_ok_or_conflict (hn : k.naming.IsTotal) (htext : s.TextQualifiers)
    (u : Unfolding s.Id) : ∀ w common q, k.compileVariant s false w [] u = .ok q →
      (∃ p, k.compileVariant s true w common u = .ok p) ∨
        ∃ e, e.IsConflict ∧ k.compileVariant s true w common u = .error e := by
  induction u using Unfolding.treeInduction with
  | leaf l =>
    intro w common q h
    obtain ⟨imports, tag, _, ⟨hi, hf, hh, ht⟩, _⟩ := compileVariant_leaf_eq_ok_iff.mp h
    exact Or.inl ⟨_, compileVariant_leaf_eq_ok_iff.mpr ⟨imports, tag, _, .intro hi hf hh ht, rfl⟩⟩
  | union i variants ih =>
    intro w common q h
    obtain ⟨imports, d, hi, hunion, _⟩ := compileVariant_union_eq_ok_iff.mp h
    rcases hunion.lifts_or_stops (hunion.exists_resolved hn htext) ih (common.map (·.name))
      with ⟨d', hd'⟩ | ⟨e, he, hstop⟩
    · exact Or.inl ⟨_, compileVariant_union_eq_ok_iff.mpr ⟨imports, d', hi, hd', rfl⟩⟩
    · exact Or.inr ⟨e, he, compileVariant_of_stops hi hstop⟩

/-! ## The two modes -/

/-- **With and without inheritance the compiler agrees.** What compiles with inheritance compiles
without it, to the same tree but for the lifted fields; what compiles without inheritance compiles
with it, or two leaves of a union declare a common field in two shapes. -/
theorem compile_modes_agree (k : Compiler) (s : Schema) (i : s.Id) :
    (∀ t, k.compile s i true = .ok t → ∃ p, k.compile s i false = .ok p ∧ Lifted t p) ∧
    (k.naming.IsTotal → s.TextQualifiers → ∀ p, k.compile s i false = .ok p →
      (∃ t, k.compile s i true = .ok t) ∨
        ∃ first second, k.compile s i true = .error (.schema (.conflictingField first second)) ∧
          first.name = second.name ∧ first.shape ≠ second.shape) := by
  refine ⟨fun t ht => ?_, fun hn htext p hp => ?_⟩
  · rcases compile_eq_ok_iff.mp ht with ⟨hu, variants, hv, hunion⟩ | ⟨hu, hc⟩
    · obtain ⟨p, hp, hl⟩ := hunion.lifted (fun v _ => compileVariant_lifted v) []
      exact ⟨p, compile_eq_ok_iff.mpr (Or.inl ⟨hu, variants, hv, hp⟩), hl⟩
    · refine ⟨t, compile_eq_ok_iff.mpr (Or.inr ⟨hu, hc⟩), ?_⟩
      obtain ⟨fields, hf, hc⟩ := compileSingle_eq_ok_iff.mp hc
      obtain ⟨_, _, _, _, rfl⟩ := singleWith_eq_ok_iff.mp hc
      exact .refl_single fun f hm => (isOverride_of_mem_resolveFields hf hm).1
  · rcases compile_eq_ok_iff.mp hp with ⟨hu, variants, hv, hunion⟩ | ⟨hu, hc⟩
    · rcases hunion.lifts_or_stops (hunion.exists_resolved hn htext)
        (fun v _ => compileVariant_ok_or_conflict hn htext v) [] with
        ⟨t, ht⟩ | ⟨_, ⟨first, second, rfl, hname, hshape⟩, hstop⟩
      · exact Or.inl ⟨t, compile_eq_ok_iff.mpr (Or.inl ⟨hu, variants, hv, ht⟩)⟩
      · exact Or.inr ⟨first, second, compile_of_stops hu hv hstop, hname, hshape⟩
    · exact Or.inl ⟨p, compile_eq_ok_iff.mpr (Or.inr ⟨hu, hc⟩)⟩

theorem textQualifiers_payments : Payments.schema.TextQualifiers :=
  Schema.textQualifiers_of_isSome (by decide)

open Payments

/-- The payments have a plain tree, and compiling them with inheritance again meets no other fault
than a conflict. -/
theorem payments_modes_agree :
    (∃ p, ({} : Compiler).compile schema (0 : Fin 3) false = .ok p ∧ Lifted paymentClass p) ∧
      ((∃ t, ({} : Compiler).compile schema (0 : Fin 3) true = .ok t) ∨
        ∃ first second, ({} : Compiler).compile schema (0 : Fin 3) true =
            .error (.schema (.conflictingField first second)) ∧
          first.name = second.name ∧ first.shape ≠ second.shape) := by
  obtain ⟨hplain, hback⟩ := compile_modes_agree {} schema (0 : Fin 3)
  obtain ⟨p, hp, hl⟩ := hplain paymentClass compile_schema
  exact ⟨⟨p, hp, hl⟩, hback (Convention.isTotal (by decide)) textQualifiers_payments p hp⟩

end Compiler
end ClassModel
