import ClassModel.Ascending
import Mathlib.Data.String.Basic
import Mathlib.Order.Lattice

/-!
# Sorted lists without repeats

Whatever the comparisons say, each value that is put in is in the list afterwards, or one that is
the same was there before (`exists_same_of_mem`). That the list is ascending is more: what comes out
is only as good as the comparison. `ByKey` says what is asked of it: on the values at hand it is the
order of a key in a linear order, and values with one key are the same. Then the list comes out
strictly ascending, and so with one value at most for each key.
-/

set_option autoImplicit false

namespace ClassModel

variable {α κ : Type} {before same : α → α → Bool} {a b : α} {as acc : List α}

/-! ## What the list holds -/

theorem eq_or_mem_of_mem_insertAscending (h : b ∈ insertAscending before same a as) :
    b = a ∨ b ∈ as := by
  induction as with
  | nil =>
    left
    exact List.mem_singleton.mp h
  | cons c rest ih =>
    rw [insertAscending] at h
    split at h
    · exact List.mem_cons.mp h
    · split at h
      · right
        exact h
      · rcases List.mem_cons.mp h with rfl | h
        · right
          exact List.mem_cons_self
        · exact (ih h).imp_right (List.mem_cons_of_mem c)

theorem mem_insertAscending_of_mem (h : b ∈ as) : b ∈ insertAscending before same a as := by
  induction as with
  | nil => cases h
  | cons c rest ih =>
    rw [insertAscending]
    split
    · exact List.mem_cons_of_mem a h
    · split
      · exact h
      · rcases List.mem_cons.mp h with rfl | h
        · exact List.mem_cons_self
        · exact List.mem_cons_of_mem c (ih h)

/-- A value that is put in is in the list, or the same value was there already. -/
theorem exists_same_insertAscending (ha : same a a = true) :
    ∃ b ∈ insertAscending before same a as, same b a = true := by
  induction as with
  | nil => exact ⟨a, List.mem_cons_self, ha⟩
  | cons c rest ih =>
    rw [insertAscending]
    split
    · exact ⟨a, List.mem_cons_self, ha⟩
    · split
      · next hca => exact ⟨c, List.mem_cons_self, hca⟩
      · obtain ⟨b, hb, hba⟩ := ih
        exact ⟨b, List.mem_cons_of_mem c hb, hba⟩

theorem mem_or_mem_of_mem_foldl
    (h : a ∈ as.foldl (fun acc b => insertAscending before same b acc) acc) : a ∈ as ∨ a ∈ acc := by
  induction as generalizing acc with
  | nil => exact Or.inr h
  | cons b rest ih =>
    rcases ih h with h | h
    · exact Or.inl (List.mem_cons_of_mem b h)
    · rcases eq_or_mem_of_mem_insertAscending h with rfl | h
      · exact Or.inl List.mem_cons_self
      · exact Or.inr h

theorem mem_of_mem_ascending (h : a ∈ ascending before same as) : a ∈ as :=
  (mem_or_mem_of_mem_foldl h).resolve_right List.not_mem_nil

/-- Values that are put in later take none away. -/
theorem subset_foldl_insertAscending :
    acc ⊆ as.foldl (fun acc b => insertAscending before same b acc) acc := by
  induction as generalizing acc with
  | nil => exact List.Subset.refl acc
  | cons b rest ih => exact fun a ha => ih (mem_insertAscending_of_mem ha)

theorem exists_same_foldl (hs : ∀ a ∈ as, same a a = true) (ha : a ∈ as) :
    ∃ b ∈ as.foldl (fun acc b => insertAscending before same b acc) acc, same b a = true := by
  induction as generalizing acc with
  | nil => cases ha
  | cons c rest ih =>
    obtain ⟨hc, hrest⟩ := List.forall_mem_cons.mp hs
    rw [List.foldl_cons]
    rcases List.mem_cons.mp ha with rfl | ha
    · obtain ⟨b, hb, hba⟩ : ∃ b ∈ insertAscending before same a acc, same b a = true :=
        exists_same_insertAscending hc
      exact ⟨b, subset_foldl_insertAscending hb, hba⟩
    · exact ih hrest ha

/-- **No value is lost**: the list holds it, or one that is the same. -/
theorem exists_same_of_mem (hs : ∀ a ∈ as, same a a = true) (ha : a ∈ as) :
    ∃ b ∈ ascending before same as, same b a = true :=
  exists_same_foldl hs ha

/-! ## Its order -/

section Order

variable [LinearOrder κ] {key : α → κ}

/-- On the values of `as`, `before` is the strict order of their keys, and `same` holds of values
with one key. -/
structure ByKey (before same : α → α → Bool) (key : α → κ) (as : List α) : Prop where
  before_iff : ∀ a ∈ as, ∀ b ∈ as, before a b = true ↔ key a < key b
  same_of_eq : ∀ a ∈ as, ∀ b ∈ as, key a = key b → same a b = true

theorem ByKey.subset {bs : List α} (h : ByKey before same key as) (hs : bs ⊆ as) :
    ByKey before same key bs :=
  ⟨fun a ha b hb => h.before_iff a (hs ha) b (hs hb),
    fun a ha b hb => h.same_of_eq a (hs ha) b (hs hb)⟩

/-- Putting a value in its place keeps a list strictly ascending. -/
theorem pairwise_insertAscending (hk : ByKey before same key (a :: as))
    (hp : as.Pairwise fun b c => key b < key c) :
    (insertAscending before same a as).Pairwise fun b c => key b < key c := by
  induction as with
  | nil => exact List.pairwise_singleton _ a
  | cons c rest ih =>
    obtain ⟨hc, hrest⟩ := List.pairwise_cons.mp hp
    rw [insertAscending]
    split
    · next hac =>
      rw [hk.before_iff a (by simp) c (by simp)] at hac
      refine List.pairwise_cons.mpr ⟨?_, hp⟩
      intro b hb
      rcases List.mem_cons.mp hb with rfl | hb
      · exact hac
      · exact lt_trans hac (hc b hb)
    · next hac =>
      rw [hk.before_iff a (by simp) c (by simp)] at hac
      split
      · exact hp
      · next hsame =>
        -- Different keys, of which that of `a` is not the lesser one.
        have hne : key c ≠ key a := fun heq => hsame (hk.same_of_eq c (by simp) a (by simp) heq)
        have hca : key c < key a := lt_of_le_of_ne (not_lt.mp hac) hne
        have hkrest : ByKey before same key (a :: rest) :=
          hk.subset (List.cons_subset_cons a (List.subset_cons_self c rest))
        refine List.pairwise_cons.mpr ⟨?_, ih hkrest hrest⟩
        intro b hb
        rcases eq_or_mem_of_mem_insertAscending hb with rfl | hb
        · exact hca
        · exact hc b hb

theorem pairwise_foldl_insertAscending (hk : ByKey before same key (as ++ acc))
    (hp : acc.Pairwise fun a b => key a < key b) :
    (as.foldl (fun acc a => insertAscending before same a acc) acc).Pairwise
      fun a b => key a < key b := by
  induction as generalizing acc with
  | nil => exact hp
  | cons a rest ih =>
    have hput : ByKey before same key (a :: acc) :=
      hk.subset (List.cons_subset_cons a (List.subset_append_right rest acc))
    refine ih (hk.subset fun b hb => ?_) (pairwise_insertAscending hput hp)
    rcases List.mem_append.mp hb with hb | hb
    · exact List.mem_cons_of_mem a (List.mem_append_left acc hb)
    · rcases eq_or_mem_of_mem_insertAscending hb with rfl | hb
      · exact List.mem_cons_self
      · exact List.mem_cons_of_mem a (List.mem_append_right rest hb)

/-- **The list comes out strictly ascending.** -/
theorem pairwise_ascending (hk : ByKey before same key as) :
    (ascending before same as).Pairwise fun a b => key a < key b := by
  have hk' : ByKey before same key (as ++ []) := by rwa [List.append_nil]
  exact pairwise_foldl_insertAscending hk' List.Pairwise.nil

end Order

/-! ## Texts -/

/-- Sorting texts loses none and adds none. -/
theorem mem_ascendingTexts {ss : List String} {t : String} : t ∈ ascendingTexts ss ↔ t ∈ ss := by
  refine ⟨mem_of_mem_ascending, fun ht => ?_⟩
  obtain ⟨b, hb, hbt⟩ : ∃ b ∈ ascendingTexts ss, (b == t) = true :=
    exists_same_of_mem (fun _ _ => beq_self_eq_true _) ht
  rwa [← beq_iff_eq.mp hbt]

end ClassModel
