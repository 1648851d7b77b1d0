import ClassModel.Proofs.Entries
import ClassModel.Target.EnumTable
import Mathlib.Data.List.Nodup

/-!
# What a table of enumerations holds

An enumeration is put into the table under its name, unless the name is taken. So the names of a
table are distinct, and they are those of the enumerations of the fields it was made of
(`addAll_spec`): nothing is lost, and nothing else gets in.
-/

set_option autoImplicit false

namespace ClassModel
namespace EnumTable

variable {t t' : EnumTable} {f : ResolvedField} {fs gs : List ResolvedField} {n : String}

/-- Each enumeration stands under its name, and no name stands twice. -/
structure Keyed (t : EnumTable) : Prop where
  key_eq : ∀ p ∈ t, p.1 = p.2.name
  nodup : (Entries.keys t).Nodup

theorem Keyed.names_eq (h : t.Keyed) : t.classes.map (·.name) = Entries.keys t := by
  rw [classes, List.map_map, Entries.keys]
  refine List.map_congr_left ?_
  intro p hp
  exact (h.key_eq p hp).symm

theorem keyed_nil : Keyed [] := by
  refine ⟨?_, List.nodup_nil⟩
  intro p hp
  cases hp

/-- The field has an enumeration of the name. -/
def HasEnum (f : ResolvedField) (n : String) : Prop := ∃ e, f.enum = some e ∧ e.name = n

/-- **One field** keeps the table keyed, and adds the name of its enumeration. -/
theorem add_spec (h : t.add f = .ok t') (ht : t.Keyed) :
    t'.Keyed ∧ ∀ n, n ∈ Entries.keys t' ↔ n ∈ Entries.keys t ∨ HasEnum f n := by
  rw [add] at h
  cases hf : f.enum with
  | none =>
    rw [hf] at h
    cases h
    refine ⟨ht, ?_⟩
    intro n
    simp [HasEnum, hf]
  | some e =>
    have hname : ∀ n, HasEnum f n ↔ e.name = n := by
      intro n
      simp [HasEnum, hf]
    rw [hf] at h
    cases hg : Entries.get? t e.name with
    | none =>
      -- A new name goes to the end.
      simp only [hg] at h
      cases h
      have hnew : e.name ∉ Entries.keys t := by
        intro hm
        obtain ⟨v, hv⟩ := Entries.exists_get?_of_mem hm
        rw [hg] at hv
        cases hv
      have hkeys : Entries.keys (t ++ [(e.name, e)]) = Entries.keys t ++ [e.name] := by
        simp [Entries.keys]
      refine ⟨⟨?_, ?_⟩, ?_⟩
      · intro p hp
        rcases List.mem_append.mp hp with hp | hp
        · exact ht.key_eq p hp
        · rw [List.mem_singleton.mp hp]
      · rw [hkeys, ← List.concat_eq_append]
        exact ht.nodup.concat hnew
      · intro n
        rw [hkeys, hname, List.mem_append, List.mem_singleton, eq_comm]
    | some taken =>
      -- A name that is taken is there already.
      simp only [hg] at h
      have hold : e.name ∈ Entries.keys t := Entries.mem_keys_of_get? hg
      split at h
      · cases h
        refine ⟨ht, ?_⟩
        intro n
        rw [hname]
        constructor
        · exact Or.inl
        · rintro (hm | rfl)
          · exact hm
          · exact hold
      · cases h

theorem addAll_cons : t.addAll (f :: fs) = match t.add f with
    | .error e => .error e
    | .ok t => t.addAll fs := by
  rw [addAll, collect]
  cases t.add f <;> rfl

theorem addAll_cons_eq_ok :
    t.addAll (f :: fs) = .ok t' ↔ ∃ u, t.add f = .ok u ∧ u.addAll fs = .ok t' := by
  rw [addAll_cons]
  cases t.add f <;> simp

theorem addAll_append : t.addAll (fs ++ gs) = t.addAll fs >>= fun u => u.addAll gs := by
  induction fs generalizing t with
  | nil => rfl
  | cons f rest ih =>
    rw [List.cons_append, addAll_cons, addAll_cons]
    cases t.add f with
    | error e => rfl
    | ok u => exact ih

theorem addAll_append_eq_ok :
    t.addAll (fs ++ gs) = .ok t' ↔ ∃ u, t.addAll fs = .ok u ∧ u.addAll gs = .ok t' := by
  rw [addAll_append]
  cases t.addAll fs <;> simp [bind, Except.bind]

/-- **All fields**: the table stays keyed, and gets the names of their enumerations. -/
theorem addAll_spec (h : t.addAll fs = .ok t') (ht : t.Keyed) :
    t'.Keyed ∧ ∀ n, n ∈ Entries.keys t' ↔ n ∈ Entries.keys t ∨ ∃ f ∈ fs, HasEnum f n := by
  induction fs generalizing t with
  | nil =>
    cases h
    refine ⟨ht, ?_⟩
    intro n
    simp
  | cons f rest ih =>
    obtain ⟨u, hu, h⟩ := addAll_cons_eq_ok.mp h
    obtain ⟨hukeyed, hunames⟩ := add_spec hu ht
    obtain ⟨hkeyed, hnames⟩ := ih h hukeyed
    refine ⟨hkeyed, ?_⟩
    intro n
    rw [hnames, hunames, List.exists_mem_cons_iff, or_assoc]

end EnumTable
end ClassModel
