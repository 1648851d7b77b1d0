import ClassModel.Traverse
import Mathlib.Data.List.Forall2

/-!
# `Traverse` as a relation

A fallible step applied to each item of a list succeeds exactly if it succeeds at every item, and
then the results stand item by item (`traverse_eq_ok_iff`). Proofs about a loop of the compiler
read its run off this relation and never open the loop again.
-/

set_option autoImplicit false

namespace ClassModel

variable {α β γ ε : Type}

/-! ## Lists that stand item by item -/

theorem exists_right_of_forall₂ {R : α → β → Prop} {as : List α} {bs : List β}
    (h : List.Forall₂ R as bs) {a : α} (ha : a ∈ as) : ∃ b ∈ bs, R a b := by
  induction h with
  | nil => exact absurd ha (by simp)
  | cons hab _ ih =>
    rcases List.mem_cons.mp ha with rfl | ha
    · exact ⟨_, List.mem_cons_self, hab⟩
    · obtain ⟨b, hb, hr⟩ := ih ha
      exact ⟨b, List.mem_cons_of_mem _ hb, hr⟩

theorem exists_left_of_forall₂ {R : α → β → Prop} {as : List α} {bs : List β}
    (h : List.Forall₂ R as bs) {b : β} (hb : b ∈ bs) : ∃ a ∈ as, R a b :=
  exists_right_of_forall₂ h.flip hb

/-- A list whose items all have something that they are related to is related to a list. -/
theorem exists_forall₂ {R : α → β → Prop} {as : List α} (h : ∀ a ∈ as, ∃ b, R a b) :
    ∃ bs, List.Forall₂ R as bs := by
  induction as with
  | nil => exact ⟨[], .nil⟩
  | cons a rest ih =>
    obtain ⟨b, hb⟩ := h a List.mem_cons_self
    obtain ⟨bs, hbs⟩ := ih fun a' ha => h a' (List.mem_cons_of_mem a ha)
    exact ⟨b :: bs, .cons hb hbs⟩

/-- At one position there are both items or none. -/
theorem getElem?_of_forall₂ {R : α → β → Prop} {as : List α} {bs : List β}
    (h : List.Forall₂ R as bs) (n : Nat) : Option.Rel R as[n]? bs[n]? := by
  induction h generalizing n with
  | nil => exact .none
  | cons hab _ ih =>
    cases n with
    | zero => exact .some hab
    | succ n => simpa using ih n

theorem exists_right_of_getElem? {R : α → β → Prop} {as : List α} {bs : List β}
    (h : List.Forall₂ R as bs) {n : Nat} {a : α} (ha : as[n]? = some a) :
    ∃ b, bs[n]? = some b ∧ R a b := by
  have hrel := getElem?_of_forall₂ h n
  rw [ha] at hrel
  cases hb : bs[n]? with
  | none =>
    rw [hb] at hrel
    cases hrel
  | some b =>
    rw [hb] at hrel
    cases hrel with
    | some hr => exact ⟨b, rfl, hr⟩

theorem exists_left_of_getElem? {R : α → β → Prop} {as : List α} {bs : List β}
    (h : List.Forall₂ R as bs) {n : Nat} {b : β} (hb : bs[n]? = some b) :
    ∃ a, as[n]? = some a ∧ R a b :=
  exists_right_of_getElem? h.flip hb

/-- Two relations item by item, one after the other. -/
theorem comp_of_forall₂ {R : α → β → Prop} {S : β → γ → Prop} {as : List α} {bs : List β}
    {cs : List γ} (h : List.Forall₂ R as bs) (h' : List.Forall₂ S bs cs) :
    List.Forall₂ (fun a c => ∃ b, R a b ∧ S b c) as cs := by
  induction h generalizing cs with
  | nil =>
    cases h'
    exact .nil
  | cons hab _ ih =>
    cases h' with
    | cons hbc hrest => exact .cons ⟨_, hab, hbc⟩ (ih hrest)

theorem flatMap_eq_of_forall₂ {f : α → List γ} {g : β → List γ} {as : List α} {bs : List β}
    (h : List.Forall₂ (fun a b => f a = g b) as bs) : as.flatMap f = bs.flatMap g := by
  induction h with
  | nil => rfl
  | cons hab _ ih => rw [List.flatMap_cons, List.flatMap_cons, hab, ih]

/-! ## The first item that stops a loop -/

/-- `Q` holds of an item and of its position, and `P` of all items before it. -/
def FirstAt (P : α → Prop) (Q : Nat → α → Prop) (as : List α) : Prop :=
  ∃ before a after, as = before ++ a :: after ∧ (∀ b ∈ before, P b) ∧ Q before.length a

section FirstAt

variable {P : α → Prop} {Q : Nat → α → Prop} {a : α} {as : List α}

theorem not_firstAt_nil : ¬ FirstAt P Q [] := by
  rintro ⟨before, a, after, h, _⟩
  cases before <;> cases h

/-- It is the first item, or `P` holds of that and it is the first of the rest. -/
theorem firstAt_cons :
    FirstAt P Q (a :: as) ↔ Q 0 a ∨ P a ∧ FirstAt P (fun n => Q (n + 1)) as := by
  constructor
  · rintro ⟨before, b, after, h, hP, hQ⟩
    cases before with
    | nil =>
      cases h
      exact Or.inl hQ
    | cons c before =>
      cases h
      obtain ⟨hc, hbefore⟩ := List.forall_mem_cons.mp hP
      exact Or.inr ⟨hc, before, b, after, rfl, hbefore, hQ⟩
  · rintro (hQ | ⟨ha, before, b, after, rfl, hP, hQ⟩)
    · exact ⟨[], a, as, rfl, by simp, hQ⟩
    · exact ⟨a :: before, b, after, rfl, List.forall_mem_cons.mpr ⟨ha, hP⟩, hQ⟩

theorem firstAt_map {P : β → Prop} {Q : Nat → β → Prop} {f : α → β} :
    FirstAt P Q (as.map f) ↔ FirstAt (fun a => P (f a)) (fun n a => Q n (f a)) as := by
  induction as generalizing Q with
  | nil => exact iff_of_false not_firstAt_nil not_firstAt_nil
  | cons a rest ih => rw [List.map_cons, firstAt_cons, firstAt_cons, ih]

end FirstAt

/-! ## Traversals -/

/-- The results of a traversal stand item by item. -/
theorem traverse_eq_ok_iff {f : α → Except ε β} {as : List α} {bs : List β} :
    traverse f as = .ok bs ↔ List.Forall₂ (fun a b => f a = .ok b) as bs := by
  induction as generalizing bs with
  | nil => simp [eq_comm]
  | cons a rest ih =>
    rw [traverse_cons_eq_ok]
    constructor
    · rintro ⟨b, bs', hb, hr, rfl⟩
      exact .cons hb (ih.mp hr)
    · intro h
      cases h with
      | cons hb hr => exact ⟨_, _, hb, ih.mpr hr, rfl⟩

/-- What the step says of every item holds item by item. -/
theorem forall₂_of_traverse {f : α → Except ε β} {R : α → β → Prop} {as : List α} {bs : List β}
    (h : traverse f as = .ok bs) (hR : ∀ a ∈ as, ∀ b, f a = .ok b → R a b) :
    List.Forall₂ R as bs := by
  induction as generalizing bs with
  | nil =>
    cases h
    exact .nil
  | cons a rest ih =>
    obtain ⟨b, bs', hb, hr, rfl⟩ := traverse_cons_eq_ok.mp h
    exact .cons (hR a List.mem_cons_self b hb)
      (ih hr fun a' ha => hR a' (List.mem_cons_of_mem _ ha))

/-- A traversal whose step succeeds at every item succeeds. -/
theorem exists_traverse_eq_ok {f : α → Except ε β} {as : List α}
    (h : ∀ a ∈ as, ∃ b, f a = .ok b) : ∃ bs, traverse f as = .ok bs := by
  induction as with
  | nil => exact ⟨[], rfl⟩
  | cons a rest ih =>
    obtain ⟨b, hb⟩ := h a List.mem_cons_self
    obtain ⟨bs, hbs⟩ := ih fun a' ha => h a' (List.mem_cons_of_mem _ ha)
    exact ⟨b :: bs, traverse_cons_eq_ok.mpr ⟨b, bs, hb, hbs, rfl⟩⟩

/-- Every result comes from an item. -/
theorem exists_item_of_traverse {f : α → Except ε β} {as : List α} {bs : List β}
    (h : traverse f as = .ok bs) {b : β} (hb : b ∈ bs) : ∃ a ∈ as, f a = .ok b :=
  exists_left_of_forall₂ (traverse_eq_ok_iff.mp h) hb

/-- Every item has a result. -/
theorem exists_result_of_traverse {f : α → Except ε β} {as : List α} {bs : List β}
    (h : traverse f as = .ok bs) {a : α} (ha : a ∈ as) : ∃ b ∈ bs, f a = .ok b :=
  exists_right_of_forall₂ (traverse_eq_ok_iff.mp h) ha

/-- A traversal that fails does so at an item. -/
theorem exists_item_of_traverse_error {f : α → Except ε β} {as : List α} {e : ε}
    (h : traverse f as = .error e) : ∃ a ∈ as, f a = .error e := by
  induction as with
  | nil => cases h
  | cons a rest ih =>
    rw [traverse] at h
    split at h
    · next e' ha =>
      cases h
      exact ⟨a, List.mem_cons_self, ha⟩
    · split at h
      · next e' hrest =>
        cases h
        obtain ⟨b, hb, hfault⟩ := ih hrest
        exact ⟨b, List.mem_cons_of_mem _ hb, hfault⟩
      · cases h

theorem traverse_map (f : β → Except ε γ) (g : α → β) (as : List α) :
    traverse f (as.map g) = traverse (fun a => f (g a)) as := by
  induction as with
  | nil => rfl
  | cons a rest ih => rw [List.map_cons, traverse, traverse, ih]

/-! ## Two traversals of one list -/

/-- Steps that agree on all items have the same traversal. -/
theorem traverse_congr {f g : α → Except ε β} {as : List α} (h : ∀ a ∈ as, f a = g a) :
    traverse f as = traverse g as := by
  induction as with
  | nil => rfl
  | cons a rest ih =>
    rw [traverse, traverse, h a List.mem_cons_self,
      ih fun b hb => h b (List.mem_cons_of_mem a hb)]

/-- If a second step follows the first one wherever that succeeds, the second traversal follows
the first, and their results are related item by item. -/
theorem exists_related_traverse {f : α → Except ε β} {g : α → Except ε γ} {R : β → γ → Prop}
    {as : List α} {bs : List β} (hfg : ∀ a ∈ as, ∀ b, f a = .ok b → ∃ c, g a = .ok c ∧ R b c)
    (h : traverse f as = .ok bs) : ∃ cs, traverse g as = .ok cs ∧ List.Forall₂ R bs cs := by
  have hf := traverse_eq_ok_iff.mp h
  clear h
  induction hf with
  | nil => exact ⟨[], rfl, .nil⟩
  | @cons a b rest bs hab _ ih =>
    obtain ⟨c, hc, hr⟩ := hfg a List.mem_cons_self b hab
    obtain ⟨cs, hcs, hrs⟩ := ih fun a' ha => hfg a' (List.mem_cons_of_mem _ ha)
    exact ⟨c :: cs, traverse_cons_eq_ok.mpr ⟨c, cs, hc, hcs, rfl⟩, .cons hr hrs⟩

/-- A traversal fails only by a fault of its step. -/
theorem traverse_ok_or {f : α → Except ε β} {P : ε → Prop} {as : List α}
    (h : ∀ a ∈ as, (∃ b, f a = .ok b) ∨ ∃ e, P e ∧ f a = .error e) :
    (∃ bs, traverse f as = .ok bs) ∨ ∃ e, P e ∧ traverse f as = .error e := by
  induction as with
  | nil => exact Or.inl ⟨[], rfl⟩
  | cons a rest ih =>
    rw [traverse]
    rcases h a List.mem_cons_self with ⟨b, hb⟩ | ⟨e, he, ha⟩
    · rw [hb]
      rcases ih fun a' ha => h a' (List.mem_cons_of_mem _ ha) with ⟨bs, hbs⟩ | ⟨e, he, hr⟩
      · rw [hbs]
        exact Or.inl ⟨b :: bs, rfl⟩
      · rw [hr]
        exact Or.inr ⟨e, he, rfl⟩
    · rw [ha]
      exact Or.inr ⟨e, he, rfl⟩

end ClassModel
