import ClassModel.Proofs.Compile.LeafOrder
import ClassModel.Proofs.Compile.Mirror
import ClassModel.Proofs.Compile.SharedFields
import Mathlib.Data.List.Perm.Basic

/-!
# Where the fields of a class come from

A class of a compiled tree lists its fields for one of three reasons: it is the root and plain, it
is a leaf below a union, or it is a union and its leaves share them (`ownFields_cases`). In each
they are resolved fields of components that the root reaches. So no class lists two fields of one
name (`distinctNames_of_site`), no leaf lists the discriminator of the union right above it
(`ne_discriminator_of_leaf`), and an enumeration has the literals of a field that is declared
(`exists_literals_of_site`).
-/

set_option autoImplicit false

namespace ClassModel

theorem Schema.reaches_of_mem_leavesAll {s : Schema} {j l : s.Id} {vs : List (Unfolding s.Id)}
    (hj : (s.component j).isUnion = true) (h : s.unfold j = .ok vs)
    (hl : l ∈ Unfolding.leavesAll vs) : s.Reaches j l := by
  have hmap : (Unfolding.placesFrom 0 vs).map (·.2) = Unfolding.leavesAll vs :=
    Unfolding.map_snd_placesFrom fun u _ => Unfolding.map_snd_places u
  rw [← hmap] at hl
  obtain ⟨⟨r, l⟩, hplace, rfl⟩ := List.mem_map.mp hl
  have hplain := (mem_places_of_growsTo (.union j vs) j (.union hj h) r l).mp hplace
  exact reaches_iff_follow.mpr ⟨r, hplain.1⟩

namespace Compiler

variable {k : Compiler} {s : Schema} {inherit : Bool} {i : s.Id} {d e u : Descriptor}
  {above : List Descriptor} {w : Json} {variants : List (Unfolding s.Id)}
  {full common rs : List ResolvedField} {r : ResolvedField}

/-- Every union of a compiled tree is the class of a union that the root reaches. -/
theorem exists_unfolded_of_site (h : k.compile s i inherit = .ok d) (hs : d.Site above u)
    (hu : u.isUnion = true) : ∃ j variants parent, s.Reaches i j ∧
      (s.component j).isUnion = true ∧ s.unfold j = .ok variants ∧
      UnionClass k s inherit j variants parent u := by
  obtain ⟨route, hr⟩ := Descriptor.exists_route_of_site hs
  obtain ⟨j, hj, hclass⟩ := (classOf_of_compile h).of_at? hr
  have hreach : s.Reaches i j := Schema.reaches_iff_follow.mpr ⟨route, hj⟩
  cases hclass with
  | single hplain hs =>
    obtain ⟨_, _, _, _, rfl⟩ := singleWith_eq_ok_iff.mp hs
    cases hu
  | union hunion hv hclass => exact ⟨j, _, _, hreach, hunion, hv, hclass⟩

/-- **Where the fields of a class come from.** -/
inductive OwnFields (k : Compiler) (s : Schema) (inherit : Bool) (i : s.Id)
    (above : List Descriptor) (e : Descriptor) : Prop
  /-- The fields of a plain root are its own. -/
  | root : above = [] → e.isUnion = false →
      k.resolveFields .null (s.component i).fields = .ok e.ownFields →
      OwnFields k s inherit i above e
  /-- The fields of a leaf are its own, those that the union above it shares marked and first. -/
  | leaf {u : Descriptor} {l : s.Id} {common rs : List ResolvedField} :
      above.getLast? = some u → e.isUnion = false → s.Reaches i l →
      k.resolveFields u.discriminator (s.component l).fields = .ok rs →
      e.ownFields = overridesFirst common rs → OwnFields k s inherit i above e
  /-- The fields of a union are shared by its leaves, and new to it. -/
  | union {w : Json} {variants : List (Unfolding s.Id)} {full : List ResolvedField}
      {parent : List String} :
      e.isUnion = true → (∀ l ∈ Unfolding.leavesAll variants, s.Reaches i l) →
      k.liftedFields s inherit w variants = .ok full →
      e.ownFields = full.filter (fun f => !parent.contains f.name) →
      OwnFields k s inherit i above e

theorem ownFields_of_site (h : k.compile s i inherit = .ok d) (hs : d.Site above e) :
    OwnFields k s inherit i above e := by
  cases he : e.isUnion with
  | true =>
    obtain ⟨j, variants, parent, hreach, hj, hv, hunion⟩ := exists_unfolded_of_site h hs he
    obtain ⟨full, hfull, hown, _⟩ := hunion.subclass_cases
    refine .union he ?_ hfull hown
    intro l hl
    exact hreach.trans (Schema.reaches_of_mem_leavesAll hj hv hl)
  | false =>
    cases hlast : above.getLast? with
    | none =>
      have hroot : above = [] := List.getLast?_eq_none_iff.mp hlast
      subst hroot
      cases hs
      rcases compile_eq_ok_iff.mp h with ⟨_, _, _, hunion⟩ | ⟨_, hc⟩
      · rw [hunion.isUnion_eq] at he
        cases he
      · obtain ⟨fields, hfields, hsingle⟩ := compileSingle_eq_ok_iff.mp hc
        obtain ⟨_, _, _, _, rfl⟩ := singleWith_eq_ok_iff.mp hsingle
        exact .root rfl rfl hfields
    | some u =>
      obtain ⟨hsub, pre, hu⟩ := hs.mem_subclasses_of_last hlast
      have hunion : u.isUnion = true := (hs.of_mem_above (List.mem_of_getLast? hlast)).1
      obtain ⟨j, variants, parent, hreach, hj, hv, hclass⟩ := exists_unfolded_of_site h hu hunion
      obtain ⟨full, _, _, hcases⟩ := hclass.subclass_cases
      rcases hcases e hsub with ⟨l, _, _, hl, hleaf⟩ | ⟨_, _, _, hnested⟩
      · obtain ⟨_, hfields, _, _⟩ := hleaf
        have hlr := Schema.reaches_of_mem_leavesAll hj hv (Unfolding.mem_leavesAll_of_leaf hl)
        exact .leaf hlast rfl (hreach.trans hlr) hfields rfl
      · rw [hnested.isUnion_eq] at he
        cases he

/-! ## Names -/

theorem distinctNames_overridesFirst (h : DistinctNames rs) :
    DistinctNames (overridesFirst common rs) := by
  unfold DistinctNames overridesFirst at *
  have hperm := (List.filter_append_perm (fun f : ResolvedField => f.isOverride)
    (rs.map fun f => { f with isOverride := common.any (·.name = f.name) })).map (·.name)
  refine hperm.nodup_iff.mpr ?_
  rw [List.map_map]
  exact h

theorem distinctNames_of_lifted (h : k.liftedFields s inherit w variants = .ok full) :
    DistinctNames full := by
  cases inherit with
  | false =>
    rw [liftedFields_false] at h
    cases h
    exact List.nodup_nil
  | true =>
    obtain ⟨_, _, hcommon⟩ := liftedFields_eq_ok_iff.mp h
    exact (gathered_of_commonFields hcommon).nodup

/-- **No class lists two fields of one name.** -/
theorem distinctNames_of_site (h : k.compile s i inherit = .ok d) (hs : d.Site above e) :
    DistinctNames e.ownFields := by
  cases ownFields_of_site h hs with
  | root _ _ hfields => exact distinctNames_of_resolveFields hfields
  | leaf _ _ _ hfields hown =>
    rw [hown]
    exact distinctNames_overridesFirst (distinctNames_of_resolveFields hfields)
  | union _ _ hfull hown =>
    rw [hown]
    exact (distinctNames_of_lifted hfull).sublist (List.filter_sublist.map _)

/-- **No leaf lists the discriminator of the union right above it.** -/
theorem ne_discriminator_of_leaf (h : k.compile s i inherit = .ok d) (hs : d.Site above e)
    (he : e.isUnion = false) (hu : above.getLast? = some u) (hr : r ∈ e.ownFields) :
    u.discriminator.text? ≠ some r.name := by
  cases ownFields_of_site h hs with
  | root hnone _ _ =>
    rw [hnone] at hu
    cases hu
  | leaf hlast _ _ hfields hown =>
    rw [hu] at hlast
    cases hlast
    rw [hown] at hr
    obtain ⟨r', hr', rfl⟩ := mem_overridesFirst.mp hr
    exact ((exists_resolved_iff_shows hfields).mp ⟨r', hr', rfl⟩).2
  | union hunion _ _ _ =>
    rw [he] at hunion
    cases hunion

/-! ## Literals -/

theorem literals_of_typedAs {f : Field} {type : String} {enum : Option EnumClass} {x : EnumClass}
    (h : k.TypedAs f type enum) (hx : enum = some x) : x.literals = f.literals := by
  cases h with
  | plain _ _ => cases hx
  | enum _ _ =>
    cases hx
    rfl
  | collection _ _ _ =>
    cases hx
    rfl

theorem exists_literals_of_resolved {c : Component s.Id} {x : EnumClass}
    (h : k.resolveFields w c.fields = .ok rs) (hr : r ∈ rs) (hx : r.enum = some x) :
    ∃ f ∈ c.fields, x.literals = f.literals := by
  obtain ⟨f, hf, hcarries, _⟩ := exists_left_of_forall₂ (carries_of_resolveFields h) hr
  exact ⟨f, List.mem_of_mem_filter hf, literals_of_typedAs hcarries.typed hx⟩

/-- **An enumeration of a tree has the literals of a field that is declared** by a component that
the root reaches. -/
theorem exists_literals_of_site {x : EnumClass} (h : k.compile s i inherit = .ok d)
    (hs : d.Site above e) (hx : x ∈ e.enums) :
    ∃ l, s.Reaches i l ∧ ∃ f ∈ (s.component l).fields, x.literals = f.literals := by
  obtain ⟨r, hr, henum⟩ := List.mem_filterMap.mp hx
  cases ownFields_of_site h hs with
  | root _ _ hfields => exact ⟨i, .refl, exists_literals_of_resolved hfields hr henum⟩
  | @leaf u l common rs _ _ hl hfields hown =>
    rw [hown] at hr
    obtain ⟨r', hr', rfl⟩ := mem_overridesFirst.mp hr
    exact ⟨l, hl, exists_literals_of_resolved hfields hr' henum⟩
  | @union w variants full parent _ hreach hfull hown =>
    rw [hown] at hr
    have hlifted : r ∈ full := List.mem_of_mem_filter hr
    cases inherit with
    | false =>
      rw [liftedFields_false] at hfull
      cases hfull
      cases hlifted
    | true =>
      obtain ⟨resolved, htraverse, hcommon⟩ := liftedFields_eq_ok_iff.mp hfull
      obtain ⟨_, fs, hfs, r', hr', rfl⟩ := origin_of_commonFields hcommon hlifted
      obtain ⟨l, hl, hfields⟩ := exists_item_of_traverse htraverse hfs
      exact ⟨l, hreach l (s.mem_of_mem_distinctLeaves hl),
        exists_literals_of_resolved hfields hr' henum⟩

end Compiler
end ClassModel
