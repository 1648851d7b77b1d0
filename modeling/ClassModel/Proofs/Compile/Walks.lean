import ClassModel.Proofs.Compile.Unfolding
import ClassModel.Proofs.Schema.Reach
import ClassModel.Proofs.Traverse
import Mathlib.Data.List.Nodup
import Mathlib.Data.List.Perm.Subperm

/-!
# The walks of an unfolding

A union is unfolded along all walks from it. Two things are shown about them.

- **They end by themselves.** No name stands on a walk twice, so a walk is no longer than the table
  of components, and the bound that unfolding is run with is never met: every greater bound gives
  the same result (`unfoldFrom_eq_unfold`).
- **Their check is inherited.** If a union unfolds, every union below it unfolds to the tree that
  it has there (`forall₂_growsTo`), because a walk that starts further down has fewer names on it
  (`unfoldFrom_mono`). So what the root has passed, no union that it reaches can fail
  (`exists_unfold_of_reaches`).
-/

set_option autoImplicit false

namespace ClassModel
namespace Schema

variable {s : Schema} {i j : s.Id} {depth depth' : Nat} {walk walk' : List String}
  {vs : List (Unfolding s.Id)}

/-! ## One step of a walk -/

/-- `s.Branch depth walk j v`: the variant `j` of the union at the end of the walk gives the tree
`v`. -/
inductive Branch (s : Schema) (depth : Nat) (walk : List String) (j : s.Id) :
    Unfolding s.Id → Prop
  | leaf : (s.component j).isUnion = false → Branch s depth walk j (.leaf j)
  | union {variants : List (Unfolding s.Id)} :
      (s.component j).isUnion = true → s.name j ∉ walk →
      s.unfoldFrom depth (walk ++ [s.name j]) j = .ok variants →
      Branch s depth walk j (.union j variants)

/-- What a variant of the union at the end of a walk unfolds to. -/
def branch (s : Schema) (depth : Nat) (walk : List String) (j : s.Id) :
    Except SchemaFault (Unfolding s.Id) :=
  if (s.component j).isUnion then
    if walk.contains (s.name j) then .error (.cyclicMapping (walk ++ [s.name j]))
    else
      match s.unfoldFrom depth (walk ++ [s.name j]) j with
      | .error e => .error e
      | .ok variants => .ok (.union j variants)
  else .ok (.leaf j)

theorem unfoldFrom_succ : s.unfoldFrom (depth + 1) walk i =
    if (s.component i).targets = [] then .error (.emptyMapping (s.name i))
    else traverse (s.branch depth walk) (s.component i).targets := by
  rw [unfoldFrom]
  cases (s.component i).targets <;> rfl

theorem branch_eq_ok_iff {v : Unfolding s.Id} :
    s.branch depth walk j = .ok v ↔ s.Branch depth walk j v := by
  rw [branch]
  cases hj : (s.component j).isUnion with
  | false =>
    constructor
    · intro h
      cases h
      exact .leaf hj
    · intro h
      cases h with
      | leaf _ => rfl
      | union hu _ _ => rw [hj] at hu; cases hu
  | true =>
    -- A union gives a tree if its name is new on the walk and it unfolds with one level less.
    by_cases hw : s.name j ∈ walk
    · constructor
      · intro h
        simp [hw] at h
      · intro h
        cases h with
        | leaf hl => rw [hj] at hl; cases hl
        | union _ hn _ => exact absurd hw hn
    · simp only [↓reduceIte, List.contains_eq_mem, hw, decide_false, Bool.false_eq_true]
      cases hv : s.unfoldFrom depth (walk ++ [s.name j]) j with
      | error e =>
        constructor
        · intro h
          cases h
        · intro h
          cases h with
          | leaf hl => rw [hj] at hl; cases hl
          | union _ _ hok => rw [hv] at hok; cases hok
      | ok variants =>
        constructor
        · intro h
          cases h
          exact .union hj hw hv
        · intro h
          cases h with
          | leaf hl => rw [hj] at hl; cases hl
          | union _ _ hok =>
            rw [hv] at hok
            cases hok
            rfl

/-- A union unfolds if it has variants and each of them gives a tree. -/
theorem unfoldFrom_eq_ok_iff :
    s.unfoldFrom (depth + 1) walk i = .ok vs ↔ (s.component i).targets ≠ [] ∧
      List.Forall₂ (s.Branch depth walk) (s.component i).targets vs := by
  rw [unfoldFrom_succ]
  by_cases ht : (s.component i).targets = []
  · simp [ht]
  · have hrel : (fun a b => s.branch depth walk a = .ok b) = s.Branch depth walk := by
      funext a b
      exact propext branch_eq_ok_iff
    rw [if_neg ht, traverse_eq_ok_iff, hrel]
    simp [ht]

/-! ## Walks end by themselves -/

/-- Names that stand on a walk once each, and belong to components, are at most as many as these. -/
theorem length_le_size (hn : walk.Nodup) (hs : ∀ n ∈ walk, ∃ j, s.name j = n) :
    walk.length ≤ s.size := by
  have hsub : walk ⊆ s.ids.map s.name := by
    intro n hm
    obtain ⟨j, rfl⟩ := hs n hm
    exact List.mem_map_of_mem (List.mem_finRange j)
  have hle := (hn.subperm hsub).length_le
  rwa [List.length_map, ids, List.length_finRange] at hle

/-- **One more step changes nothing**, once there is room for all names. -/
theorem unfoldFrom_succ_eq (hn : walk.Nodup) (hs : ∀ n ∈ walk, ∃ j, s.name j = n)
    (hd : s.size + 1 ≤ depth + walk.length) :
    s.unfoldFrom (depth + 1) walk i = s.unfoldFrom depth walk i := by
  induction depth generalizing i walk with
  | zero =>
    -- A walk with all names on it has no room for another one.
    have hle := length_le_size hn hs
    omega
  | succ depth ih =>
    rw [unfoldFrom_succ, unfoldFrom_succ]
    have hbranch : s.branch (depth + 1) walk = s.branch depth walk := by
      funext j
      by_cases hw : s.name j ∈ walk
      · simp [branch, hw]
      · have hn' : (walk ++ [s.name j]).Nodup := nodup_snoc hn hw
        have hs' : ∀ n ∈ walk ++ [s.name j], ∃ l, s.name l = n := by
          intro n hm
          rcases List.mem_append.mp hm with hm | hm
          · exact hs n hm
          · exact ⟨j, (List.mem_singleton.mp hm).symm⟩
        have hd' : s.size + 1 ≤ depth + (walk ++ [s.name j]).length := by
          rw [List.length_append, List.length_singleton]
          omega
        rw [branch, branch, ih hn' hs' hd']
    rw [hbranch]

/-- **The bound is never met**: every greater one gives the same unfolding, or the same fault. -/
theorem unfoldFrom_eq_unfold (h : s.size ≤ depth) :
    s.unfoldFrom depth [s.name i] i = s.unfold i := by
  induction h with
  | refl => rfl
  | @step depth hle ih =>
    have hs : ∀ n ∈ [s.name i], ∃ j, s.name j = n := by
      intro n hm
      exact ⟨i, (List.mem_singleton.mp hm).symm⟩
    rw [unfoldFrom_succ_eq (List.nodup_singleton _) hs (by simpa using hle), ih]

/-! ## Their check is inherited -/

/-- **What unfolds on a walk unfolds on a shorter one**, to the same trees. -/
theorem unfoldFrom_mono (hd : depth ≤ depth') (hw : walk' ⊆ walk)
    (h : s.unfoldFrom depth walk i = .ok vs) : s.unfoldFrom depth' walk' i = .ok vs := by
  induction depth generalizing i walk walk' depth' vs with
  | zero => cases h
  | succ depth ih =>
    obtain ⟨m, rfl⟩ : ∃ m, depth' = m + 1 := ⟨depth' - 1, by omega⟩
    obtain ⟨ht, hf⟩ := unfoldFrom_eq_ok_iff.mp h
    refine unfoldFrom_eq_ok_iff.mpr ⟨ht, hf.imp ?_⟩
    intro j v hb
    cases hb with
    | leaf hj => exact .leaf hj
    | union hj hn hv =>
      have hw' : walk' ++ [s.name j] ⊆ walk ++ [s.name j] := by
        intro n hm
        rcases List.mem_append.mp hm with hm | hm
        · exact List.mem_append_left _ (hw hm)
        · exact List.mem_append_right _ hm
      exact .union hj (fun hm => hn (hw hm)) (ih (by omega) hw' hv)

/-- `s.GrowsTo j v`: the component `j`, unfolded on its own, gives the tree `v`. -/
inductive GrowsTo (s : Schema) (j : s.Id) : Unfolding s.Id → Prop
  | leaf : (s.component j).isUnion = false → GrowsTo s j (.leaf j)
  | union {variants : List (Unfolding s.Id)} :
      (s.component j).isUnion = true → s.unfold j = .ok variants →
      GrowsTo s j (.union j variants)

theorem GrowsTo.root_eq {v : Unfolding s.Id} (h : s.GrowsTo j v) : v.root = j := by
  cases h <;> rfl

/-- **A union that unfolds has the trees of its variants below it**, in the order of its mapping. -/
theorem forall₂_growsTo (h : s.unfold i = .ok vs) :
    List.Forall₂ s.GrowsTo (s.component i).targets vs := by
  have hsize : 0 < s.size := Nat.lt_of_le_of_lt (Nat.zero_le _) i.isLt
  obtain ⟨n, hn⟩ : ∃ n, s.size = n + 1 := ⟨s.size - 1, by omega⟩
  rw [unfold, hn] at h
  obtain ⟨_, hf⟩ := unfoldFrom_eq_ok_iff.mp h
  refine hf.imp ?_
  intro j v hb
  cases hb with
  | leaf hj => exact .leaf hj
  | union hj _ hv =>
    have hown : s.unfold j = .ok _ := unfoldFrom_mono (by omega) (by simp) hv
    exact .union hj hown

/-- The trees of a union that unfolds stand for the components that it lists. -/
theorem lists_iff_of_unfold {l : s.Id} (h : s.unfold i = .ok vs) :
    s.Lists i l ↔ ∃ v ∈ vs, v.root = l := by
  constructor
  · intro hl
    obtain ⟨v, hm, hlv⟩ := exists_right_of_forall₂ (forall₂_growsTo h) hl
    exact ⟨v, hm, hlv.root_eq⟩
  · rintro ⟨v, hm, rfl⟩
    obtain ⟨l, hl, hlv⟩ := exists_left_of_forall₂ (forall₂_growsTo h) hm
    rwa [hlv.root_eq]

/-- **A union that is reached from one that unfolds unfolds too.** -/
theorem exists_unfold_of_reaches (h : s.unfold i = .ok vs) (hr : s.Reaches i j)
    (hj : (s.component j).isUnion = true) : ∃ variants, s.unfold j = .ok variants := by
  induction hr with
  | refl => exact ⟨vs, h⟩
  | @tail l j _ hlist ih =>
    obtain ⟨above, habove⟩ := ih hlist.isUnion_eq
    obtain ⟨v, _, hv⟩ := exists_right_of_forall₂ (forall₂_growsTo habove) hlist
    cases hv with
    | leaf hl => rw [hj] at hl; cases hl
    | union _ hv => exact ⟨_, hv⟩

/-- The leaves of a union are those of the tree that it unfolds to. -/
theorem leafVariants_eq_ok_iff {leaves : List s.Id} :
    s.leafVariants i = .ok leaves ↔ (s.component i).isUnion = true ∧
      ∃ variants, s.unfold i = .ok variants ∧ leaves = s.distinctLeaves variants := by
  rw [leafVariants, requireUnion, Component.isUnion]
  cases (s.component i).discriminator with
  | none => simp
  | some d => cases s.unfold i <;> simp [eq_comm]

end Schema
end ClassModel
