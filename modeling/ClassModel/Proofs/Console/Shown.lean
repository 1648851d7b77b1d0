import ClassModel.Console.Outline
import ClassModel.Proofs.Descriptor.Site

/-!
# Which class trees can be shown

A class tree has an outline exactly if each of its unions is told apart by a text
(`exists_outlineOf_iff`), whatever makes the texts safe.
-/

set_option autoImplicit false

namespace ClassModel
namespace Console

variable (escape : String → String)

/-- Every union of the tree is told apart by a text. -/
def TextTags (d : Descriptor) : Prop :=
  ∀ above u, d.Site above u → u.isUnion = true → ∃ field, u.discriminator = .str field

theorem textTags_single (head : ClassHead) (fields : List ResolvedField) :
    TextTags (.single head fields) := by
  intro above u hsite hunion
  obtain ⟨_, rfl⟩ := Descriptor.site_single hsite
  cases hunion

theorem textTags_union_iff {head : ClassHead} {discriminator : Json} {common : List ResolvedField}
    {tags : Entries String} {subclasses : List Descriptor} :
    TextTags (.union head discriminator common tags subclasses) ↔
      (∃ field, discriminator = .str field) ∧ ∀ e ∈ subclasses, TextTags e := by
  constructor
  · intro h
    refine ⟨h [] _ (.root _) rfl, ?_⟩
    intro e he above u hsite
    exact h _ u (.under he hsite)
  · rintro ⟨hfield, hall⟩ above u hsite hunion
    cases hsite with
    | root => exact hfield
    | under he hsite => exact hall _ he _ u hsite hunion

theorem exists_unionLabel_iff (name : String) (discriminator : Json) :
    (∃ label, unionLabel escape name discriminator = .ok label) ↔
      ∃ field, discriminator = .str field := by
  cases discriminator <;> simp [unionLabel]

theorem exists_outlinesOf_iff (tags : Entries String) (ds : List Descriptor) :
    (∃ os, outlinesOf escape tags ds = .ok os) ↔ ∀ d ∈ ds, ∃ o, outlineOf escape d = .ok o := by
  induction ds with
  | nil => simp [outlinesOf]
  | cons d rest ih =>
    rw [List.forall_mem_cons, ← ih, outlinesOf]
    cases outlineOf escape d with
    | error m => simp
    | ok o => cases outlinesOf escape tags rest <;> simp

/-- **A class tree can be shown** exactly if each of its unions is told apart by a text. -/
theorem exists_outlineOf_iff (d : Descriptor) :
    (∃ o, outlineOf escape d = .ok o) ↔ TextTags d := by
  induction d using Descriptor.treeInduction with
  | single head fields => exact iff_of_true ⟨_, rfl⟩ (textTags_single head fields)
  | union head discriminator common tags subclasses ih =>
    rw [textTags_union_iff, ← exists_unionLabel_iff escape head.name, ← forall₂_congr ih,
      ← exists_outlinesOf_iff escape tags, outlineOf]
    cases unionLabel escape head.name discriminator with
    | error m => simp
    | ok label => cases outlinesOf escape tags subclasses <;> simp

end Console
end ClassModel
