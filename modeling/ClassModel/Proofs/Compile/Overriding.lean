import ClassModel.Proofs.Compile.Lineage
import Mathlib.Data.Fintype.Basic

/-!
# Which fields a leaf overrides

A leaf lists its own fields, resolved under the discriminator of the union right above it, and
marks those that this union shares. Seen from further up the two parts of that sentence pull
apart: a union higher up leaves out its own discriminator and not that of the union below.

- A field of the leaf is marked exactly if some union above lists its name, and every union that
  lists it does so in the leaf's shape (`isOverride_iff_listed`, `shape_of_listed`).
- The other way round fails at one name. A common field of a union above is overridden by the leaf
  unless it is the discriminator of the union right above the leaf
  (`overrides_common_iff`); there the leaf does not have it at all.
-/

set_option autoImplicit false

namespace ClassModel
namespace Compiler

variable {k : Compiler} {s : Schema} {inherit : Bool} {i : s.Id} {d leaf u last : Descriptor}
  {above : List Descriptor}

/-! ## The fields of one leaf -/

/-- Marking and sorting loses no field and invents none. -/
theorem mem_overridesFirst {common fs : List ResolvedField} {f : ResolvedField} :
    f ∈ overridesFirst common fs ↔
      ∃ r ∈ fs, f = { r with isOverride := common.any (·.name = r.name) } := by
  rw [overridesFirst, List.mem_append, List.mem_filter, List.mem_filter, ← and_or_left,
    List.mem_map]
  constructor
  · rintro ⟨⟨r, hr, rfl⟩, _⟩
    exact ⟨r, hr, rfl⟩
  · rintro ⟨r, hr, rfl⟩
    refine ⟨⟨r, hr, rfl⟩, ?_⟩
    cases common.any (·.name = r.name) <;> simp

/-- A leaf's fields are its resolved ones, each marked if the union right above shares its
name. -/
theorem LeafClass.exists_resolved {w : Json} {common : List ResolvedField} {l : s.Id}
    {imports : List Json} {tag : String} (h : LeafClass k s w common l imports tag d) :
    ∃ rs, k.resolveFields w (s.component l).fields = .ok rs ∧ ∀ f, f ∈ d.ownFields ↔
      ∃ r ∈ rs, f = { r with isOverride := common.any (·.name = r.name) } := by
  obtain ⟨_, hf, _, _⟩ := h
  exact ⟨_, hf, fun _ => mem_overridesFirst⟩

theorem any_name_iff {common : List ResolvedField} {n : String} :
    common.any (·.name = n) = true ↔ ∃ g ∈ common, g.name = n := by
  simp

/-- **A leaf of a compiled tree** is the whole tree, with no field marked, or has a lineage that
starts with nothing shared. -/
theorem leaf_cases (h : k.compile s i inherit = .ok d) (hs : d.Site above leaf)
    (hl : leaf.isUnion = false) :
    (above = [] ∧ ∀ f ∈ leaf.ownFields, f.isOverride = false) ∨
      ∃ l variants inner last imports tag, Lineage k s inherit l inner [] variants above ∧
        above.getLast? = some last ∧ LeafClass k s last.discriminator inner l imports tag leaf := by
  rcases compile_eq_ok_iff.mp h with ⟨_, variants, _, hu⟩ | ⟨_, hc⟩
  · have hroot : UnionClass k s inherit i variants (([] : List ResolvedField).map (·.name)) d := hu
    obtain ⟨l, inner, last, imports, tag, hline, hlast, hleaf⟩ := lineage_of_site hs hl hroot
    exact Or.inr ⟨l, variants, inner, last, imports, tag, hline, hlast, hleaf⟩
  · obtain ⟨fields, hf, hc⟩ := compileSingle_eq_ok_iff.mp hc
    obtain ⟨_, _, _, _, rfl⟩ := singleWith_eq_ok_iff.mp hc
    obtain ⟨rfl, rfl⟩ := Descriptor.site_single hs
    exact Or.inl ⟨rfl, fun f hfm => (isOverride_of_mem_resolveFields hf hfm).1⟩

/-- The fields that a union lists are abstract. -/
theorem isAbstract_of_listed (h : k.compile s i inherit = .ok d) (hs : d.Site above u)
    (hu : u.isUnion = true) {g : ResolvedField} (hg : g ∈ u.ownFields) : g.isAbstract = true := by
  obtain ⟨_, _, _, hunion⟩ := unionClass_of_site h hs hu
  obtain ⟨lifted, hl, hown, _⟩ := hunion.subclass_cases
  rw [hown] at hg
  exact (isAbstract_of_lifted hl (List.mem_of_mem_filter hg)).1

/-! ## Marked fields are listed above -/

/-- **A field is marked exactly if a union above lists its name.** -/
theorem isOverride_iff_listed (hn : Function.Injective s.name)
    (h : k.compile s i inherit = .ok d) (hs : d.Site above leaf) (hl : leaf.isUnion = false)
    {f : ResolvedField} (hf : f ∈ leaf.ownFields) :
    f.isOverride = true ↔ ∃ u ∈ above, ∃ g ∈ u.ownFields, g.name = f.name := by
  rcases leaf_cases h hs hl with ⟨rfl, hplain⟩ |
    ⟨l, variants, inner, last, imports, tag, hline, hlast, hleaf⟩
  · rw [hplain f hf]
    simp
  · obtain ⟨rs, hr, hmem⟩ := hleaf.exists_resolved
    obtain ⟨r, hrm, rfl⟩ := (hmem f).mp hf
    dsimp only
    rw [any_name_iff]
    constructor
    · intro hg
      rcases hline.origin hg with ⟨g, hg, _⟩ | hg
      · exact absurd hg (by simp)
      · exact hg
    · rintro ⟨u, hu, g, hg, hname⟩
      cases inherit with
      | false =>
        rw [hline.ownFields_of_plain.2 u hu] at hg
        exact absurd hg (by simp)
      | true =>
        -- The leaf itself shows the name, so it is not the discriminator right above it.
        have hw : last.discriminator.text? ≠ some g.name :=
          hname ▸ ((exists_resolved_iff_shows hr).mp ⟨r, hrm, rfl⟩).2
        obtain ⟨g', hg', hname'⟩ := hline.persists_of_listed hn hlast hu hg hw
        exact ⟨g', hg', hname'.trans hname⟩

/-- **Every union that lists a field of the leaf lists it in the leaf's shape.** -/
theorem shape_of_listed (hn : Function.Injective s.name) (h : k.compile s i inherit = .ok d)
    (hs : d.Site above leaf) (hl : leaf.isUnion = false) {f g : ResolvedField}
    (hf : f ∈ leaf.ownFields) (hu : u ∈ above) (hg : g ∈ u.ownFields) (hname : g.name = f.name) :
    g.shape = f.shape := by
  rcases leaf_cases h hs hl with ⟨rfl, _⟩ |
    ⟨l, variants, inner, last, imports, tag, hline, _, hleaf⟩
  · exact absurd hu (by simp)
  · obtain ⟨rs, hr, hmem⟩ := hleaf.exists_resolved
    obtain ⟨r, hrm, rfl⟩ := (hmem f).mp hf
    cases inherit with
    | false =>
      rw [hline.ownFields_of_plain.2 u hu] at hg
      exact absurd hg (by simp)
    | true =>
      obtain ⟨us, full, hlu, hfull, hin⟩ := hline.exists_shared hu
      have hshape : g.shape = r.shape := shape_of_lifted hn hfull hlu hr (hin g hg) hrm hname
      exact hshape

/-! ## Listed fields are overridden, but for one name -/

/-- **A leaf overrides a common field of a union above exactly if the field is not the
discriminator of the union right above the leaf.** The shape is the one the union lists. -/
theorem overrides_common_iff (hn : Function.Injective s.name) (h : k.compile s i true = .ok d)
    (hs : d.Site above leaf) (hl : leaf.isUnion = false) (hlast : above.getLast? = some last)
    (hu : u ∈ above) {g : ResolvedField} (hg : g ∈ u.ownFields) :
    (∃ f ∈ leaf.ownFields, f.name = g.name ∧ f.shape = g.shape ∧ f.isOverride = true) ↔
      last.discriminator.text? ≠ some g.name := by
  rcases leaf_cases h hs hl with ⟨rfl, _⟩ |
    ⟨l, variants, inner, last', imports, tag, hline, hlast', hleaf⟩
  · cases hlast
  · rw [hlast] at hlast'
    cases hlast'
    obtain ⟨rs, hr, hmem⟩ := hleaf.exists_resolved
    constructor
    · rintro ⟨f, hf, hname, _, _⟩
      obtain ⟨r, hrm, rfl⟩ := (hmem f).mp hf
      exact ((exists_resolved_iff_shows hr).mp ⟨r, hrm, hname⟩).2
    · intro hw
      obtain ⟨us, full, hlu, hfull, hin⟩ := hline.exists_shared hu
      have hshow := ((exists_lifted_iff hn hfull hlu).mp ⟨g, hin g hg, rfl⟩).1 l hlu
      obtain ⟨r, hrm, hname⟩ := (exists_resolved_iff_shows hr).mpr ⟨hshow, hw⟩
      have hf := (hmem _).mpr ⟨r, hrm, rfl⟩
      have hshape : g.shape = r.shape := shape_of_lifted hn hfull hlu hr (hin g hg) hrm hname.symm
      have hmark := hline.persists_of_listed hn hlast hu hg hw
      rw [← hname] at hmark
      exact ⟨_, hf, hname, hshape.symm, any_name_iff.mpr hmark⟩

end Compiler

/-! ## An instance

A card is a payment, and where it is prepaid it is a transfer too, which is again a payment. The two
unions have discriminators of their own, and the card declares both. -/

namespace Payments

/-- The payments, the transfers and the card. -/
def schema : Schema where
  size := 3
  key := fun i => ["Payment", "Transfer", "Card"][i]
  component := fun i => [
    { name := "Payment",
      discriminator := some ⟨.str "type", [("CARD", 2), ("TRANSFER", 1)]⟩ },
    { name := "Transfer", discriminator := some ⟨.str "kind", [("PREPAID", 2)]⟩ },
    { name := "Card", fields := [
      { name := "type", type := { qualifier := .str "kotlin.String" }, literals := ["CARD"],
        required := true },
      { name := "kind", type := { qualifier := .str "kotlin.String" }, literals := ["PREPAID"],
        required := true },
      { name := "amount", type := { qualifier := .str "kotlin.Double" }, required := true }] }][i]

/-- The type of a payment, resolved. -/
def typeField : ResolvedField :=
  { name := "type", type := "Type", enum := some ⟨"Type", ["CARD"]⟩, required := true }

/-- The kind of a transfer, resolved. -/
def kindField : ResolvedField :=
  { name := "kind", type := "Kind", enum := some ⟨"Kind", ["PREPAID"]⟩, required := true }

/-- The amount of a payment, resolved. -/
def amountField : ResolvedField := { name := "amount", type := "Double", required := true }

/-- A field as a union lists it. -/
def common (f : ResolvedField) : ResolvedField := { f with isAbstract := true }

/-- A field as a leaf lists it that has it from a union. -/
def inherited (f : ResolvedField) : ResolvedField := { f with isOverride := true }

/-- What the classes of the payments import. -/
def imports : List String := ["kotlin.Double", "kotlin.String"]

/-- The class of the card right below the payments. -/
def cardClass : Descriptor :=
  .single (.named "Card" imports) [inherited kindField, inherited amountField]

/-- The class of the card below the transfers. -/
def prepaidClass : Descriptor :=
  .single (.named "Card" imports) [inherited typeField, inherited amountField]

/-- The class of the transfers, which lists what the payments do not. -/
def transferClass : Descriptor :=
  .union (.named "Transfer" imports) (.str "kind") [common typeField] [("Card", "PREPAID")]
    [prepaidClass]

/-- The class of the payments. The transfers have replaced the tag of the card. -/
def paymentClass : Descriptor :=
  .union (.named "Payment" imports) (.str "type") [common kindField, common amountField]
    [("Card", "PREPAID")] [cardClass, transferClass]

theorem name_injective : Function.Injective schema.name := by
  decide

theorem compile_schema : ({} : Compiler).compile schema (0 : Fin 3) true = .ok paymentClass :=
  rfl

theorem site_transferClass : paymentClass.Site [paymentClass] transferClass :=
  .under (List.mem_cons_of_mem _ (List.mem_singleton_self _)) (.root _)

theorem site_prepaidClass : paymentClass.Site [paymentClass, transferClass] prepaidClass :=
  .under (List.mem_cons_of_mem _ (List.mem_singleton_self _))
    (.under (List.mem_singleton_self _) (.root _))

end Payments

namespace Compiler

open Payments

/-- The prepaid card overrides the amount, which the payments list. -/
theorem prepaid_overrides_amount :
    ∃ f ∈ prepaidClass.ownFields, f.name = (common amountField).name ∧
      f.shape = (common amountField).shape ∧ f.isOverride = true := by
  have hamount : common amountField ∈ paymentClass.ownFields :=
    List.mem_cons_of_mem _ (List.mem_singleton_self _)
  have hw : transferClass.discriminator.text? ≠ some (common amountField).name := by decide
  exact (overrides_common_iff name_injective compile_schema site_prepaidClass rfl rfl
    List.mem_cons_self hamount).mpr hw

/-- **A leaf need not have a common field of a union above it**: the payments list the kind, and
the prepaid card does not have it. -/
theorem not_all_common_overridden :
    ¬ ∀ (k : Compiler) (s : Schema) (i : s.Id) (d leaf u : Descriptor) (above : List Descriptor)
      (g : ResolvedField), Function.Injective s.name → k.compile s i true = .ok d →
      d.Site above leaf → leaf.isUnion = false → u ∈ above → g ∈ u.ownFields →
      ∃ f ∈ leaf.ownFields, f.name = g.name ∧ f.shape = g.shape ∧ f.isOverride = true := by
  intro hall
  obtain ⟨f, hf, hname, _⟩ := hall {} schema (0 : Fin 3) paymentClass prepaidClass paymentClass _
    (common kindField) name_injective compile_schema site_prepaidClass rfl List.mem_cons_self
    List.mem_cons_self
  have hnone : ∀ f ∈ prepaidClass.ownFields, f.name ≠ (common kindField).name := by decide
  exact hnone f hf hname

end Compiler
end ClassModel
