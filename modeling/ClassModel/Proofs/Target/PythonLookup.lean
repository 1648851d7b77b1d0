import ClassModel.Proofs.Compile.Origin
import ClassModel.Proofs.Compile.Overriding
import ClassModel.Proofs.Compile.TagKeys
import ClassModel.Proofs.Entries
import ClassModel.Target.PythonWriter

/-!
# Looking up the tag of a leaf

A Python module writes the tag of a leaf below the union right above it, and looks it up by the
name of the leaf's class among the tags of that union. The tags of a union list exactly the leaves
that the union flattens to, in that order (`tags_list_leaves`), whatever names are shared or
repeated, so a compiled tree never makes the look-up fail.
-/

set_option autoImplicit false

namespace ClassModel

theorem Descriptor.leaves_of_isUnion {u : Descriptor} (h : u.isUnion = true) :
    u.leaves = leavesAll u.subclasses := by
  cases u with
  | single => cases h
  | union => rfl

namespace Compiler

variable {k : Compiler} {s : Schema} {inherit : Bool} {i : s.Id} {d u e : Descriptor}

/-- The keys of a union's tags, and what they are the keys of. -/
theorem keys_of_unionClass {variants : List (Unfolding s.Id)} {parent : List String}
    (h : UnionClass k s inherit i variants parent u) :
    u.tags.keys = (s.distinctLeaves variants).map s.name ∧
      u.tags.keys = (u.leaves.map (·.name)).eraseDups := by
  have hnames := h.leafNames
  rw [Descriptor.leaves_of_isUnion h.isUnion_eq, hnames.leaves, ← firstByName_eq_eraseDups,
    Schema.distinctLeaves, map_firstByName]
  exact ⟨hnames.keys, hnames.keys⟩

/-- A single class right below a union of a compiled tree has a tag in the union. -/
theorem name_mem_keys_of_site (h : k.compile s i inherit = .ok d) {above : List Descriptor}
    (hs : d.Site above u) (he : e ∈ u.subclasses) (hl : e.isUnion = false) :
    e.name ∈ u.tags.keys := by
  have hu : u.isUnion = true := by
    cases u with
    | single => exact absurd he (by simp [Descriptor.subclasses])
    | union => rfl
  obtain ⟨_, _, _, hunion⟩ := unionClass_of_site h hs hu
  have hleaf : e ∈ u.leaves := by
    rw [Descriptor.leaves_of_isUnion hu, Descriptor.leavesAll_eq_flatMap, List.mem_flatMap]
    refine ⟨e, he, ?_⟩
    cases e with
    | single => exact List.mem_singleton_self _
    | union => cases hl
  rw [(keys_of_unionClass hunion).2, List.mem_eraseDups]
  exact List.mem_map_of_mem hleaf

end Compiler

namespace PythonModule

variable {k : Compiler} {s : Schema} {inherit : Bool} {i : s.Id} {d : Descriptor}

/-- Only a single class whose union has no tag for it is without constants. -/
theorem constantsOf_ne_untagged {above : Option Descriptor} {e : Descriptor} {leaf : String}
    (h : ∀ u, above = some u → e.isUnion = false → e.name ∈ u.tags.keys) :
    constantsOf above e ≠ .error (.untagged leaf) := by
  intro hc
  cases e with
  | union => cases hc
  | single head fields =>
    cases above with
    | none => cases hc
    | some u =>
      rw [constantsOf] at hc
      cases ht : tagName u.discriminator with
      | error m =>
        rw [ht] at hc
        cases hc
      | ok name =>
        obtain ⟨tag, htag⟩ := Entries.exists_get?_of_mem (h u rfl rfl)
        have hget : u.tags.get? head.name = some tag := htag
        rw [ht] at hc
        dsimp only at hc
        rw [hget] at hc
        cases hc

/-- Classes fail for a missing tag only if the constants of one of them do. -/
theorem classesOf_ne_untagged {o : Options} {ps : List (Option Descriptor × Descriptor)}
    (h : ∀ p ∈ ps, ∀ leaf, constantsOf p.1 p.2 ≠ .error (.untagged leaf)) (table : EnumTable)
    (leaf : String) : classesOf o table ps ≠ .error (.untagged leaf) := by
  induction ps generalizing table with
  | nil =>
    intro hc
    cases hc
  | cons p rest ih =>
    intro hc
    obtain ⟨above, e⟩ := p
    rw [classesOf] at hc
    split at hc
    · next hclass =>
      -- The class itself fails, and only its constants can.
      rw [classOf] at hclass
      split at hclass
      · next hconst =>
        cases hclass
        cases hc
        exact h _ List.mem_cons_self _ hconst
      · cases hclass
    · split at hc
      · cases hc
      · split at hc
        · cases hc
        · split at hc
          · next hrest =>
            cases hc
            exact ih (fun q hq => h q (List.mem_cons_of_mem _ hq)) _ hrest
          · cases hc

/-- **The tags of a union list the leaves that its component flattens to, in their order**, and
these are the names of the single classes below it with repeats left out. So no module that is
written from a compiled tree misses the tag of a leaf. -/
theorem tags_list_leaves (h : k.compile s i inherit = .ok d) :
    (∀ route u, d.at? route = some u → u.isUnion = true →
      ∃ j leaves, s.follow? i route = some j ∧ s.leafVariants j = .ok leaves ∧
        u.tags.keys = leaves.map s.name ∧
        u.tags.keys = (u.leaves.map (·.name)).eraseDups) ∧
    ∀ settings leaf, ofDescriptor settings d ≠ .error (.untagged leaf) := by
  constructor
  · intro route u hu hunion
    obtain ⟨j, hj, hclass⟩ := (Compiler.classOf_of_compile h).of_at? hu
    have hkind := hclass.isUnion_eq
    cases hclass with
    | single hplain _ =>
      rw [hunion, hplain] at hkind
      cases hkind
    | @union variants _ _ hj' hv hclass =>
      obtain ⟨hkeys, hnames⟩ := Compiler.keys_of_unionClass hclass
      exact ⟨j, s.distinctLeaves variants, hj,
        Schema.leafVariants_eq_ok_iff.mpr ⟨hj', variants, hv, rfl⟩, hkeys, hnames⟩
  · intro settings leaf hw
    have hplaced : ∀ p ∈ d.placed none, ∀ leaf, constantsOf p.1 p.2 ≠ .error (.untagged leaf) := by
      rintro ⟨above, e⟩ hp leaf
      obtain ⟨unions, hs, rfl⟩ := Descriptor.mem_placed_iff.mp hp
      refine constantsOf_ne_untagged ?_
      intro u hu hl
      rw [Option.or_none] at hu
      obtain ⟨he, pre, hpre⟩ := hs.mem_subclasses_of_last hu
      exact Compiler.name_mem_keys_of_site h hpre he hl
    rw [ofDescriptor] at hw
    split at hw
    · next e hc =>
      cases hw
      exact classesOf_ne_untagged hplaced [] leaf hc
    · split at hw
      · cases hw
      · cases hw

open Payments

/-- The payments list the card once, though it stands below them twice, and their module is
written. -/
theorem payments_list_card :
    (∃ j leaves, schema.follow? (0 : Fin 3) [] = some j ∧ schema.leafVariants j = .ok leaves ∧
      paymentClass.tags.keys = leaves.map schema.name ∧
      paymentClass.tags.keys = (paymentClass.leaves.map (·.name)).eraseDups) ∧
    ofDescriptor {} paymentClass ≠ .error (.untagged "Card") := by
  obtain ⟨hkeys, hlookup⟩ := tags_list_leaves compile_schema
  exact ⟨hkeys [] paymentClass rfl rfl, hlookup {} "Card"⟩

end PythonModule
end ClassModel
