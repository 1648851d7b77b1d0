import ClassModel.Proofs.Compile.Overriding
import ClassModel.Proofs.Compile.Tagging
import ClassModel.Target.PythonWriter

/-!
# The constant that holds a leaf's tag

A Python module writes below each union, in every leaf right below it, a constant that is named
after the union's discriminator and holds the leaf's tag. The tag is the union's own entry for the
leaf, and that is the leaf's literal for the discriminator of the last place where the leaf stands
below the union. So the constant holds the literal that its name promises exactly if the
discriminator there gives the leaf the same literal (`constant_holds_own_tag_iff`).
-/

set_option autoImplicit false

namespace ClassModel

/-- Only a text can name the field that a tag is read from. -/
theorem Component.exists_text_of_tag {ι : Type} {c : Component ι} {w : Json} {t : String}
    (h : c.tag w = .ok t) : ∃ field, w = .str field := by
  rw [Component.tag] at h
  split at h
  · cases h
  · cases w with
    | str field => exact ⟨field, rfl⟩
    | _ => cases h

theorem Descriptor.exists_lastUnion {u leaf : Descriptor} (hsub : leaf ∈ u.subclasses)
    (hl : leaf.isUnion = false) : ∃ w, u.lastUnion leaf.name = some w := by
  rw [lastUnion]
  generalize u.subclasses = subs at hsub
  induction subs with
  | nil => exact absurd hsub (by simp)
  | cons d rest ih =>
    rw [lastAboveAll]
    cases hrest : lastAboveAll leaf.name u rest with
    | some w => exact ⟨w, rfl⟩
    | none =>
      rcases List.mem_cons.mp hsub with rfl | hsub
      · exact ⟨u, by rw [lastAbove_of_leaf hl, if_pos rfl]; rfl⟩
      · obtain ⟨w, hw⟩ := ih hsub
        rw [hrest] at hw
        cases hw

namespace PythonModule

variable {k : Compiler} {s : Schema} {inherit : Bool} {i : s.Id} {d u leaf : Descriptor}
  {above : List Descriptor}

/-- The constant of a leaf holds what the union right above it has for the leaf's name. -/
theorem constantsOf_leaf {field t : String} (hl : leaf.isUnion = false)
    (hw : u.discriminator = .str field) (ht : u.tags.get? leaf.name = some t) :
    constantsOf (some u) leaf =
      .ok [⟨Identifier.Sanitizer.python.sanitize field .snake, .str t⟩] := by
  cases leaf with
  | union => cases hl
  | single head fields =>
    have ht' : u.tags.get? head.name = some t := ht
    rw [constantsOf, hw, tagName]
    dsimp only
    rw [ht']

/-- **The constant of a leaf is named after the discriminator of the union right above the leaf,
and holds the leaf's literal for the discriminator of the last place of the leaf below that
union.** It holds the literal for its own discriminator exactly if the two literals are one. -/
theorem constant_holds_own_tag_iff (hn : Function.Injective s.name)
    (h : k.compile s i inherit = .ok d) (hs : d.Site above u) (hsub : leaf ∈ u.subclasses)
    (hl : leaf.isUnion = false) :
    ∃ l w field own t, s.name l = leaf.name ∧ u.lastUnion leaf.name = some w ∧
      u.discriminator = .str field ∧
      (s.component l).tag u.discriminator = .ok own ∧
      (s.component l).tag w.discriminator = .ok t ∧
      u.tags.get? leaf.name = some t ∧
      constantsOf (some u) leaf =
        .ok [⟨Identifier.Sanitizer.python.sanitize field .snake, .str t⟩] ∧
      (u.tags.get? leaf.name = some own ↔
        (s.component l).tag w.discriminator = (s.component l).tag u.discriminator) := by
  have hu : u.isUnion = true := by
    cases u with
    | single => exact absurd hsub (by simp [Descriptor.subclasses])
    | union => rfl
  obtain ⟨j, us, names, hunion⟩ := Compiler.unionClass_of_site h hs hu
  obtain ⟨lifted, _, _, hcases⟩ := hunion.subclass_cases
  rcases hcases leaf hsub with ⟨l, _, own, _, hleaf⟩ | ⟨_, _, _, hnested⟩
  · have hname : leaf.name = s.name l := hleaf.name_eq
    have hown := hleaf.tag_eq
    obtain ⟨field, hfield⟩ := Component.exists_text_of_tag hown
    -- The mapping holds the literal of the last place below the union, whatever this place is.
    obtain ⟨w, hw⟩ := Descriptor.exists_lastUnion hsub hl
    have hrel := (Compiler.tagsLast_of_site hn h hs hu l).rel
    rw [← hname, hw] at hrel
    cases hget : u.tags.get? leaf.name with
    | none => rw [hget] at hrel; cases hrel
    | some t =>
      rw [hget] at hrel
      cases hrel with
      | some ht =>
        have htag : (s.component l).tag w.discriminator = .ok t := ht
        refine ⟨l, w, field, own, t, hname.symm, hw, hfield, hown, htag, rfl,
          constantsOf_leaf hl hfield hget, ?_⟩
        rw [htag, hown, Option.some.injEq, Except.ok.injEq]
  · rw [hnested.isUnion_eq] at hl
    cases hl

open Payments

/-- Below the transfers the constant of the card holds the card's own tag. -/
theorem prepaid_holds_own_tag :
    ∃ l w, schema.name l = "Card" ∧ transferClass.lastUnion "Card" = some w ∧
      (schema.component l).tag w.discriminator =
        (schema.component l).tag transferClass.discriminator := by
  obtain ⟨l, w, _, own, t, hname, hw, _, hown, ht, hget, _, hiff⟩ :=
    constant_holds_own_tag_iff name_injective compile_schema site_transferClass
      (List.mem_singleton_self prepaidClass) rfl
  have hl : l = (2 : Fin 3) := name_injective hname
  subst hl
  refine ⟨_, w, hname, hw, hiff.mp ?_⟩
  cases hown
  rfl

/-- **A leaf need not have its own tag**: right below the payments the constant that is named after
their discriminator holds the literal for the other one. -/
theorem not_all_hold_own_tag :
    ¬ ∀ (k : Compiler) (s : Schema) (i l : s.Id) (inherit : Bool) (d u leaf : Descriptor)
      (above : List Descriptor), Function.Injective s.name → k.compile s i inherit = .ok d →
      d.Site above u → leaf ∈ u.subclasses → leaf.isUnion = false → s.name l = leaf.name →
      ∃ t, (s.component l).tag u.discriminator = .ok t ∧ u.tags.get? leaf.name = some t := by
  intro hall
  obtain ⟨t, ht, hget⟩ := hall {} schema (0 : Fin 3) (2 : Fin 3) true paymentClass paymentClass
    cardClass [] name_injective compile_schema (.root _) List.mem_cons_self rfl rfl
  cases ht
  exact absurd hget (by decide)

end PythonModule
end ClassModel
