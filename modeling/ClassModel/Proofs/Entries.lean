import ClassModel.Entries
import Mathlib.Data.List.Nodup

/-!
# Merging entries

Merging sets the entries of a second map one by one, so a key of the second map gets the value it
has there and every other key keeps its own (`get?_merge`). That needs the second map to have each
key once, which setting and merging keep.
-/

set_option autoImplicit false

namespace ClassModel
namespace Entries

variable {α : Type} {es more : Entries α}

theorem nodup_keys_set (h : es.keys.Nodup) (k : String) (v : α) : (es.set k v).keys.Nodup := by
  rw [keys_set]
  split
  · exact h
  · next hk =>
    rw [← List.concat_eq_append]
    exact h.concat hk

theorem nodup_keys_merge (h : es.keys.Nodup) (more : Entries α) : (es.merge more).keys.Nodup := by
  rw [merge]
  induction more generalizing es with
  | nil => exact h
  | cons e rest ih => exact ih (nodup_keys_set h e.1 e.2)

theorem mem_keys_set {j k : String} {v : α} : j ∈ (es.set k v).keys ↔ j ∈ es.keys ∨ j = k := by
  rw [keys_set]
  split
  · next hk =>
    refine ⟨Or.inl, ?_⟩
    rintro (hj | rfl)
    · exact hj
    · exact hk
  · rw [List.mem_append, List.mem_singleton]

theorem mem_or_eq_of_mem_set {e : String × α} {k : String} {v : α} (h : e ∈ es.set k v) :
    e ∈ es ∨ e = (k, v) := by
  induction es with
  | nil => exact Or.inr (List.mem_singleton.mp h)
  | cons e' rest ih =>
    rw [set] at h
    split at h
    · rcases List.mem_cons.mp h with rfl | h
      · exact Or.inr rfl
      · exact Or.inl (List.mem_cons_of_mem e' h)
    · rcases List.mem_cons.mp h with rfl | h
      · exact Or.inl List.mem_cons_self
      · exact (ih h).imp_left (List.mem_cons_of_mem e')

theorem mem_keys_iff {k : String} : k ∈ es.keys ↔ ∃ v, (k, v) ∈ es := by
  simp [keys]

theorem mem_keys_erase {j k : String} : j ∈ (es.erase k).keys ↔ j ∈ es.keys ∧ j ≠ k := by
  rw [mem_keys_iff, mem_keys_iff, erase]
  simp

theorem get?_eq_none_of_notMem {k : String} (h : k ∉ es.keys) : es.get? k = none := by
  rw [get?, List.lookup_eq_none_iff]
  intro e he
  have hk : e.1 ∈ es.keys := List.mem_map_of_mem he
  have hne : k ≠ e.1 := fun hek => h (hek ▸ hk)
  simpa using hne

theorem exists_get?_of_mem {k : String} (h : k ∈ es.keys) : ∃ v, es.get? k = some v := by
  cases hk : es.get? k with
  | some v => exact ⟨v, rfl⟩
  | none =>
    rw [get?, List.lookup_eq_none_iff] at hk
    obtain ⟨e, he, rfl⟩ := List.mem_map.mp h
    have hne := hk e he
    simp at hne

theorem mem_keys_of_get? {k : String} {v : α} (h : es.get? k = some v) : k ∈ es.keys := by
  by_contra hk
  rw [get?_eq_none_of_notMem hk] at h
  cases h

theorem notMem_keys_of_get? {k : String} (h : es.get? k = none) : k ∉ es.keys := by
  intro hk
  obtain ⟨v, hv⟩ := exists_get?_of_mem hk
  rw [h] at hv
  cases hv

/-- **After a merge a key has its value of the second map**, or else that of the first. -/
theorem get?_merge (h : more.keys.Nodup) (k : String) :
    (es.merge more).get? k = (more.get? k).or (es.get? k) := by
  induction more generalizing es with
  | nil => rfl
  | cons e rest ih =>
    obtain ⟨j, v⟩ := e
    obtain ⟨hj, hrest⟩ : j ∉ keys rest ∧ (keys rest).Nodup := List.nodup_cons.mp h
    have hstep : es.merge ((j, v) :: rest) = (es.set j v).merge rest := rfl
    rw [hstep, ih hrest]
    by_cases hk : k = j
    · -- The key is set here and, being there once, by no later entry.
      subst hk
      rw [get?_eq_none_of_notMem hj, get?_set_self, Option.none_or]
      simp [get?]
    · rw [get?_set_ne es v hk]
      have hkj : (k == j) = false := beq_eq_false_iff_ne.mpr hk
      simp [get?, List.lookup_cons, hkj]

/-- Of entries that are chosen by their keys, the values stay. -/
theorem get?_filter (p : String → Bool) (es : Entries α) (k : String) :
    get? (es.filter fun e => p e.1) k = if p k = true then es.get? k else none := by
  induction es with
  | nil => simp
  | cons e rest ih =>
    obtain ⟨j, v⟩ := e
    by_cases hk : k = j
    · subst hk
      cases hp : p k with
      | true => simp [hp, get?]
      | false => simpa [hp] using ih
    · have hkj : (k == j) = false := beq_eq_false_iff_ne.mpr hk
      have hstep : get? ((j, v) :: rest) k = get? rest k := by
        rw [get?, List.lookup_cons, hkj, get?]
      rw [hstep, ← ih]
      cases hp : p j with
      | true => simp [hp, get?, List.lookup_cons, hkj]
      | false => simp [hp]

theorem nodup_keys_filter (h : es.keys.Nodup) (p : String × α → Bool) :
    (keys (es.filter p)).Nodup :=
  List.Nodup.sublist (List.filter_sublist.map Prod.fst) h

theorem get?_erase (es : Entries α) (k j : String) :
    (es.erase k).get? j = if j = k then none else es.get? j := by
  have hfilter := get?_filter (fun i => i != k) es j
  rw [erase, hfilter]
  by_cases hj : j = k <;> simp [hj]

theorem nodup_keys_erase (h : es.keys.Nodup) (k : String) : (es.erase k).keys.Nodup :=
  nodup_keys_filter h _

/-! ## Entries as a list -/

/-- The value of a key after a merge with any list: the last one of the list counts. -/
theorem get?_merge_ofList (es : Entries α) (more : List (String × α)) (k : String) :
    (es.merge more).get? k = ((ofList more).get? k).or (es.get? k) := by
  induction more generalizing es with
  | nil => rfl
  | cons e rest ih =>
    have hstep : ∀ es : Entries α, es.merge (e :: rest) = (es.set e.1 e.2).merge rest :=
      fun _ => rfl
    rw [ofList, hstep, hstep, ih, ih, Option.or_assoc]
    by_cases hk : k = e.1
    · simp [hk]
    · rw [get?_set_ne es e.2 hk, get?_set_ne [] e.2 hk, get?_nil, Option.none_or]

/-- A later entry of a key counts before the first one. -/
theorem get?_ofList_cons (e : String × α) (rest : List (String × α)) (k : String) :
    (ofList (e :: rest)).get? k =
      ((ofList rest).get? k).or (if e.1 = k then some e.2 else none) := by
  have hstep : ofList (e :: rest) = (set [] e.1 e.2).merge rest := rfl
  rw [hstep, get?_merge_ofList]
  by_cases hk : e.1 = k
  · simp [hk]
  · rw [get?_set_ne [] e.2 (Ne.symm hk), get?_nil, if_neg hk]

theorem nodup_keys_ofList (es : List (String × α)) : (ofList es).keys.Nodup := by
  have hnil : (keys ([] : Entries α)).Nodup := List.nodup_nil
  exact nodup_keys_merge hnil es

/-- A list in which each key stands once is a map. -/
theorem get?_ofList (h : es.keys.Nodup) (k : String) : (ofList es).get? k = es.get? k := by
  rw [ofList, get?_merge h, get?_nil, Option.or_none]

/-- Where each key stands once, the value of a key is that of its entry. -/
theorem get?_eq_some_iff (h : es.keys.Nodup) {k : String} {v : α} :
    es.get? k = some v ↔ (k, v) ∈ es := by
  induction es with
  | nil => simp
  | cons e rest ih =>
    obtain ⟨j, w⟩ := e
    obtain ⟨hj, hrest⟩ : j ∉ keys rest ∧ (keys rest).Nodup := List.nodup_cons.mp h
    by_cases hk : k = j
    · subst hk
      have hnone : (k, v) ∉ rest := fun hm => hj (List.mem_map_of_mem hm)
      simp [get?, hnone, eq_comm]
    · have hkj : (k == j) = false := beq_eq_false_iff_ne.mpr hk
      have hstep : get? ((j, w) :: rest) k = get? rest k := by
        rw [get?, List.lookup_cons, hkj, get?]
      rw [hstep, ih hrest]
      simp [hk]

theorem has_iff {k : String} : es.has k = true ↔ k ∈ es.keys := by
  rw [has]
  constructor
  · intro h
    obtain ⟨v, hv⟩ := Option.isSome_iff_exists.mp h
    exact mem_keys_of_get? hv
  · intro h
    obtain ⟨v, hv⟩ := exists_get?_of_mem h
    rw [hv]
    rfl

/-- The order of entries does not matter for the value of a key. -/
theorem get?_of_perm (h : es.keys.Nodup) (hp : more.Perm es) (k : String) :
    more.get? k = es.get? k := by
  have hkeys : more.keys.Nodup := (hp.map Prod.fst).nodup_iff.mpr h
  refine Option.ext fun v => ?_
  rw [get?_eq_some_iff hkeys, get?_eq_some_iff h, hp.mem_iff]

end Entries
end ClassModel
