import ClassModel.Compile.Unfolding
import ClassModel.Proofs.Traverse
import Mathlib.Data.List.Nodup

/-!
# Steps that settle

Why a step of the compiler fails is worth as much as whether it succeeds. `Settles` says both: under
a condition the step has a result, and otherwise it ends in a fault of a known kind. A traversal
settles if its step does. The first step of the compiler for which it is stated is the tag of a
variant.
-/

set_option autoImplicit false

namespace ClassModel

/-! ## Tags -/

namespace Component

variable {ι : Type} {c : Component ι}

theorem field?_eq_some_iff {n : String} {f : Field} :
    c.field? n = some f ↔ f ∈ c.fields ∧ f.name = n := by
  rw [field?]
  constructor
  · intro h
    exact ⟨List.mem_of_find?_eq_some h, by simpa using List.find?_some h⟩
  · rintro ⟨hf, rfl⟩
    cases hg : c.fields.find? (·.name = f.name) with
    | none => simpa using List.find?_eq_none.mp hg f hf
    | some g =>
      have hname : g.name = f.name := by simpa using List.find?_some hg
      rw [List.inj_on_of_nodup_map c.distinct (List.mem_of_find?_eq_some hg) hf hname]

/-- The component declares the field `w`, with one literal. -/
def TaggedBy (c : Component ι) (w : Json) : Prop :=
  ∃ f ∈ c.fields, w = .str f.name ∧ ∃ literal, f.literals = [literal]

end Component

/-- Is the rule about mappings: that they list something, and do not come back to a name? -/
def SchemaFault.IsWalk : SchemaFault → Prop
  | .emptyMapping _ | .cyclicMapping _ => True
  | _ => False

/-! ## Conditions and faults -/

/-- `Settles r good fault`: the result `r` is there exactly if `good` holds, and otherwise a fault
of the kind `fault` is. -/
inductive Settles {α : Type} (r : Except CompileFault α) (good : Prop)
    (fault : CompileFault → Prop) : Prop
  | ok {a : α} : good → r = .ok a → Settles r good fault
  | error {e : CompileFault} : ¬ good → r = .error e → fault e → Settles r good fault

namespace Settles

variable {α β : Type} {r : Except CompileFault α} {good good' : Prop}
  {fault fault' : CompileFault → Prop}

theorem exists_ok_iff (h : Settles r good fault) : (∃ a, r = .ok a) ↔ good := by
  cases h with
  | ok hg hr => simp [hg, hr]
  | error hg hr _ => simp [hg, hr]

theorem fault_of_error (h : Settles r good fault) {e : CompileFault} (he : r = .error e) :
    fault e := by
  cases h with
  | ok _ hr => rw [hr] at he; cases he
  | error _ hr hf =>
    rw [hr] at he
    cases he
    exact hf

theorem congr (h : Settles r good fault) (hg : good ↔ good') : Settles r good' fault :=
  propext hg ▸ h

theorem mono (h : Settles r good fault) (hf : ∀ e, fault e → fault' e) :
    Settles r good fault' := by
  cases h with
  | ok hg hr => exact .ok hg hr
  | error hg hr he => exact .error hg hr (hf _ he)

/-- A traversal settles if its step does: it is good if all items are. -/
theorem traverse {f : α → Except CompileFault β} {good : α → Prop} {as : List α}
    (h : ∀ a ∈ as, Settles (f a) (good a) fault) :
    Settles (ClassModel.traverse f as) (∀ a ∈ as, good a) fault := by
  induction as with
  | nil => exact .ok (by simp) rfl
  | cons a rest ih =>
    have hrest := ih fun b hb => h b (List.mem_cons_of_mem a hb)
    rw [ClassModel.traverse]
    cases h a List.mem_cons_self with
    | error hg hr he =>
      rw [hr]
      exact .error (fun hall => hg (hall a List.mem_cons_self)) rfl he
    | ok hg hr =>
      rw [hr]
      dsimp only
      cases hrest with
      | error hgs hrs he =>
        rw [hrs]
        exact .error (fun hall => hgs fun b hb => hall b (List.mem_cons_of_mem a hb)) rfl he
      | ok hgs hrs =>
        rw [hrs]
        exact .ok (List.forall_mem_cons.mpr ⟨hg, hgs⟩) rfl

end Settles

/-- The tag of a variant: there if it declares the discriminator with one literal. -/
theorem Component.tag_settles {ι : Type} (c : Component ι) (w : Json) :
    Settles (c.tag w) (c.TaggedBy w) fun e =>
      (∃ f, e = .schema f ∧ ¬ f.IsWalk) ∨ (e = .misfit .key ∧ w.isKey = false) := by
  rw [Component.tag]
  by_cases hw : w.isKey = true
  · -- Only a text can be the name of a field, and names of fields are distinct.
    have hfield : ∀ f, w.text? >>= c.field? = some f ↔ f ∈ c.fields ∧ w = .str f.name := by
      intro f
      cases w with
      | str n =>
        rw [Json.str.injEq, eq_comm (a := n)]
        exact field?_eq_some_iff
      | _ => simp [Json.text?]
    simp only [hw, Bool.not_true, Bool.false_eq_true, ↓reduceIte]
    cases hf : w.text? >>= c.field? with
    | none =>
      refine .error ?_ rfl (Or.inl ⟨_, rfl, fun h => h⟩)
      rintro ⟨f, hmem, hname, _⟩
      rw [(hfield f).mpr ⟨hmem, hname⟩] at hf
      cases hf
    | some f =>
      obtain ⟨hmem, hname⟩ := (hfield f).mp hf
      have hgood : c.TaggedBy w ↔ ∃ literal, f.literals = [literal] := by
        constructor
        · rintro ⟨g, hg, hgname, hone⟩
          rw [(hfield g).mpr ⟨hg, hgname⟩] at hf
          cases hf
          exact hone
        · intro hone
          exact ⟨f, hmem, hname, hone⟩
      refine Settles.congr ?_ hgood.symm
      dsimp only
      split
      · next literal hl => exact .ok ⟨literal, hl⟩ rfl
      · next hl => exact .error (fun ⟨literal, h⟩ => hl literal h) rfl (Or.inl ⟨_, rfl, fun h => h⟩)
  · rw [Bool.not_eq_true] at hw
    rw [if_pos (by rw [hw]; rfl)]
    refine .error ?_ rfl (Or.inr ⟨rfl, hw⟩)
    rintro ⟨f, _, rfl, _⟩
    cases hw

end ClassModel
