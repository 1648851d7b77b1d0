import ClassModel.Compile.Unfolding
import Mathlib.Data.List.Basic

/-!
# Keeping the first of each name

Leaves are flattened by keeping the first leaf of each name, and the tags of a union keep each key
where it was first set. Both are `firstByName`; the laws here say what it does to lists that are
put together of parts, some of which have been through it already. On names alone it is the
library's `eraseDups`.
-/

set_option autoImplicit false

namespace ClassModel

variable {α β : Type} {name : α → String} {seen seen' : List String} {as bs : List α}

theorem firstByName_cons_of_mem {a : α} (h : name a ∈ seen) :
    firstByName name seen (a :: as) = firstByName name seen as := by
  simp [firstByName, h]

theorem firstByName_cons_of_notMem {a : α} (h : name a ∉ seen) :
    firstByName name seen (a :: as) = a :: firstByName name (name a :: seen) as := by
  simp [firstByName, h]

/-- Only the names that have been seen count, not their order. -/
theorem firstByName_congr (h : ∀ n, n ∈ seen ↔ n ∈ seen') :
    firstByName name seen as = firstByName name seen' as := by
  induction as generalizing seen seen' with
  | nil => rfl
  | cons a rest ih =>
    by_cases ha : name a ∈ seen
    · rw [firstByName_cons_of_mem ha, firstByName_cons_of_mem ((h _).mp ha), ih h]
    · have ha' : name a ∉ seen' := fun hm => ha ((h _).mpr hm)
      have hcons : ∀ n, n ∈ name a :: seen ↔ n ∈ name a :: seen' := by
        intro n
        rw [List.mem_cons, List.mem_cons, h n]
      rw [firstByName_cons_of_notMem ha, firstByName_cons_of_notMem ha', ih hcons]

/-- A name that has been seen may be left out of the names that follow. -/
theorem mem_append_cons_of_mem {m : String} {ns : List String} (h : m ∈ seen) (n : String) :
    n ∈ seen ++ m :: ns ↔ n ∈ seen ++ ns := by
  simp only [List.mem_append, List.mem_cons]
  constructor
  · rintro (hn | rfl | hn)
    · exact Or.inl hn
    · exact Or.inl h
    · exact Or.inr hn
  · rintro (hn | hn)
    · exact Or.inl hn
    · exact Or.inr (Or.inr hn)

theorem mem_append_cons_comm {m : String} {ns : List String} (n : String) :
    n ∈ seen ++ m :: ns ↔ n ∈ (m :: seen) ++ ns := by
  simp only [List.mem_append, List.mem_cons]
  tauto

theorem firstByName_append : firstByName name seen (as ++ bs) =
    firstByName name seen as ++ firstByName name (seen ++ as.map name) bs := by
  induction as generalizing seen with
  | nil => simp [firstByName]
  | cons a rest ih =>
    rw [List.cons_append, List.map_cons]
    by_cases ha : name a ∈ seen
    · rw [firstByName_cons_of_mem ha, firstByName_cons_of_mem ha, ih,
        firstByName_congr (mem_append_cons_of_mem ha)]
    · rw [firstByName_cons_of_notMem ha, firstByName_cons_of_notMem ha, ih,
        firstByName_congr mem_append_cons_comm]
      rfl

/-- A list that has been through it gives what the list itself gives. -/
theorem firstByName_firstByName (h : seen' ⊆ seen) :
    firstByName name seen (firstByName name seen' as) = firstByName name seen as := by
  induction as generalizing seen seen' with
  | nil => rfl
  | cons a rest ih =>
    by_cases ha' : name a ∈ seen'
    · rw [firstByName_cons_of_mem ha', firstByName_cons_of_mem (h ha'), ih h]
    · rw [firstByName_cons_of_notMem ha']
      by_cases ha : name a ∈ seen
      · rw [firstByName_cons_of_mem ha, firstByName_cons_of_mem ha,
          ih (List.cons_subset.mpr ⟨ha, h⟩)]
      · rw [firstByName_cons_of_notMem ha, firstByName_cons_of_notMem ha,
          ih (List.cons_subset_cons _ h)]

theorem map_firstByName :
    (firstByName name seen as).map name = firstByName id seen (as.map name) := by
  induction as generalizing seen with
  | nil => rfl
  | cons a rest ih =>
    by_cases ha : name a ∈ seen <;> simp [firstByName, ha, ih]

/-- Names that are kept, or have been seen, are those of the list, or have been seen. -/
theorem mem_firstByName_iff {ns : List String} {n : String} :
    n ∈ seen ++ firstByName id seen ns ↔ n ∈ seen ++ ns := by
  induction ns generalizing seen with
  | nil => rfl
  | cons m rest ih =>
    by_cases hm : m ∈ seen
    · rw [firstByName_cons_of_mem hm, ih, mem_append_cons_of_mem hm]
    · rw [firstByName_cons_of_notMem hm, mem_append_cons_comm, mem_append_cons_comm]
      exact ih

/-- Parts may go through it before they are put together. -/
theorem firstByName_flatMap {items : List β} {f : β → List String} :
    firstByName id seen (items.flatMap fun b => firstByName id [] (f b)) =
      firstByName id seen (items.flatMap f) := by
  induction items generalizing seen with
  | nil => rfl
  | cons b rest ih =>
    have hmem : ∀ n, n ∈ seen ++ (firstByName id [] (f b)).map id ↔ n ∈ seen ++ (f b).map id := by
      intro n
      have hb : n ∈ [] ++ firstByName id [] (f b) ↔ n ∈ [] ++ f b := mem_firstByName_iff
      simp only [List.nil_append] at hb
      simp [hb]
    rw [List.flatMap_cons, List.flatMap_cons, firstByName_append, firstByName_append,
      firstByName_firstByName (List.nil_subset _), firstByName_congr hmem, ih]

/-! ## Which items are kept -/

theorem sublist_firstByName : List.Sublist (firstByName name seen as) as := by
  induction as generalizing seen with
  | nil => exact .slnil
  | cons a rest ih =>
    by_cases ha : name a ∈ seen
    · rw [firstByName_cons_of_mem ha]
      exact ih.cons a
    · rw [firstByName_cons_of_notMem ha]
      exact ih.cons_cons a

theorem notMem_of_mem_firstByName {a : α} (h : a ∈ firstByName name seen as) :
    name a ∉ seen := by
  induction as generalizing seen with
  | nil => cases h
  | cons b rest ih =>
    by_cases hb : name b ∈ seen
    · rw [firstByName_cons_of_mem hb] at h
      exact ih h
    · rw [firstByName_cons_of_notMem hb] at h
      rcases List.mem_cons.mp h with rfl | h
      · exact hb
      · intro hm
        exact ih h (List.mem_cons_of_mem _ hm)

theorem nodup_firstByName : ((firstByName name seen as).map name).Nodup := by
  induction as generalizing seen with
  | nil => exact List.nodup_nil
  | cons a rest ih =>
    by_cases ha : name a ∈ seen
    · rw [firstByName_cons_of_mem ha]
      exact ih
    · rw [firstByName_cons_of_notMem ha, List.map_cons, List.nodup_cons]
      refine ⟨?_, ih⟩
      intro hm
      obtain ⟨b, hb, hname⟩ := List.mem_map.mp hm
      exact notMem_of_mem_firstByName hb (by simp [hname])

/-- An item that is kept comes before all others of its name. -/
theorem first_of_mem_firstByName {R : α → α → Prop} (hR : as.Pairwise R) {a b : α}
    (ha : a ∈ firstByName name seen as) (hb : b ∈ as) (hname : name b = name a) :
    b = a ∨ R a b := by
  induction as generalizing seen with
  | nil => cases hb
  | cons c rest ih =>
    obtain ⟨hc, hrest⟩ := List.pairwise_cons.mp hR
    by_cases hs : name c ∈ seen
    · rw [firstByName_cons_of_mem hs] at ha
      rcases List.mem_cons.mp hb with rfl | hb
      · rw [hname] at hs
        exact absurd hs (notMem_of_mem_firstByName ha)
      · exact ih hrest ha hb
    · rw [firstByName_cons_of_notMem hs] at ha
      rcases List.mem_cons.mp ha with rfl | ha
      · rcases List.mem_cons.mp hb with rfl | hb
        · exact Or.inl rfl
        · exact Or.inr (hc b hb)
      · rcases List.mem_cons.mp hb with rfl | hb
        · rw [hname] at ha
          exact absurd List.mem_cons_self (notMem_of_mem_firstByName ha)
        · exact ih hrest ha hb

/-- Items may be chosen by what they are turned into. -/
theorem map_firstByName_comp {f : β → α} {bs : List β} :
    (firstByName (fun b => name (f b)) seen bs).map f = firstByName name seen (bs.map f) := by
  induction bs generalizing seen with
  | nil => rfl
  | cons b rest ih =>
    by_cases hb : name (f b) ∈ seen <;> simp [firstByName, hb, ih]

/-- **On names it is what erases repeats.** -/
theorem firstByName_eq_eraseDups (ns : List String) : firstByName id [] ns = ns.eraseDups := by
  -- With names seen, those are left out first.
  have h : ∀ seen : List String, firstByName id seen ns =
      (ns.filter fun n => !seen.contains n).eraseDups := by
    induction ns with
    | nil => intro seen; rfl
    | cons n rest ih =>
      intro seen
      by_cases hn : n ∈ seen
      · rw [firstByName_cons_of_mem hn, List.filter_cons_of_neg (by simpa using hn), ih]
      · have hfilter : (rest.filter fun m => !(n :: seen).contains m) =
            (rest.filter fun m => !seen.contains m).filter fun m => !m == n := by
          rw [List.filter_filter]
          refine List.filter_congr ?_
          intro m _
          by_cases hmn : m = n <;> simp [hmn]
        rw [firstByName_cons_of_notMem hn, List.filter_cons_of_pos (by simpa using hn),
          List.eraseDups_cons, ← hfilter, ← ih]
        rfl
  simpa using h []

end ClassModel
