import ClassModel.Schema.Basic
import Mathlib.Data.List.Chain
import Mathlib.Data.List.Nodup
import Mathlib.Logic.Relation

/-!
# What a component reaches

A mapping lists variants, the unions among them list variants of their own, and so on. Two views
of that are used. Where only the component at the end matters, `Reaches` and `ReachesBelow` are
the closures of `Lists`. Where the way there matters, a route gives one position in a mapping
after the other, and `follow?` goes along it: a component that several unions share, or that one
mapping lists twice, stands at the end of several routes. A walk, with the components on it in a
list, grows at its end; what is shown of that first holds of any relation.
-/

set_option autoImplicit false

namespace ClassModel

section Walk

variable {α : Type} {R : α → α → Prop} {as : List α} {a b : α}

/-- Along a chain every item leads to the last one. -/
theorem transGen_of_isChain (h : (as ++ [a]).IsChain R) (hb : b ∈ as) :
    Relation.TransGen R b a := by
  have hpairs : (as ++ [a]).Pairwise (Relation.TransGen R) :=
    List.isChain_iff_pairwise.mp (h.imp fun _ _ => Relation.TransGen.single)
  exact (List.pairwise_append.mp hpairs).2.2 b hb a (List.mem_singleton.mpr rfl)

theorem isChain_snoc (h : (as ++ [a]).IsChain R) (hr : R a b) :
    ((as ++ [a]) ++ [b]).IsChain R := by
  refine List.isChain_append.mpr ⟨h, List.isChain_singleton b, fun x hx y hy => ?_⟩
  rw [List.getLast?_append_of_ne_nil _ (by simp), List.getLast?_singleton] at hx
  cases hx
  cases hy
  exact hr

theorem nodup_snoc (h : as.Nodup) (ha : a ∉ as) : (as ++ [a]).Nodup := by
  rw [← List.concat_eq_append]
  exact h.concat ha

end Walk

theorem Component.isUnion_of_mem_targets {ι : Type} {c : Component ι} {j : ι}
    (h : j ∈ c.targets) : c.isUnion = true := by
  cases hc : c.discriminator with
  | none => simp [Component.targets, Component.mapping, hc] at h
  | some d => simp [Component.isUnion, hc]

namespace Schema

variable {s : Schema} {i j l : s.Id}

/-- `s.Lists i j`: the mapping of `i` lists `j`. -/
def Lists (s : Schema) (i j : s.Id) : Prop := j ∈ (s.component i).targets

/-- `s.Reaches i j`: mappings lead from `i` to `j`, in any number of steps. -/
abbrev Reaches (s : Schema) : s.Id → s.Id → Prop := Relation.ReflTransGen s.Lists

/-- `s.ReachesBelow i j`: mappings lead from `i` to `j`, in one step or more. -/
abbrev ReachesBelow (s : Schema) : s.Id → s.Id → Prop := Relation.TransGen s.Lists

theorem Lists.isUnion_eq (h : s.Lists i j) : (s.component i).isUnion = true :=
  Component.isUnion_of_mem_targets h

/-- A plain component reaches only itself. -/
theorem Reaches.eq_of_plain (h : s.Reaches i j) (hi : (s.component i).isUnion = false) : j = i := by
  rcases Relation.ReflTransGen.cases_head h with rfl | ⟨l, hl, _⟩
  · rfl
  · rw [hl.isUnion_eq] at hi
    cases hi

/-- A component reaches itself and what its variants reach. -/
theorem reaches_iff : s.Reaches i j ↔ j = i ∨ ∃ l, s.Lists i l ∧ s.Reaches l j :=
  Relation.ReflTransGen.cases_head_iff.trans (or_congr_left eq_comm)

/-- Below a component are its variants and what is below them. -/
theorem reachesBelow_iff :
    s.ReachesBelow i j ↔ ∃ l, s.Lists i l ∧ (l = j ∨ s.ReachesBelow l j) := by
  refine Relation.TransGen.head'_iff.trans (exists_congr fun l => and_congr_right fun _ => ?_)
  exact Relation.reflTransGen_iff_eq_or_transGen.trans (or_congr_left eq_comm)

/-- The component at the end of a route, which gives one position in a mapping after the other. -/
def follow? (s : Schema) : s.Id → List Nat → Option s.Id
  | i, [] => some i
  | i, n :: route =>
    match (s.component i).targets[n]? with
    | none => none
    | some j => s.follow? j route

theorem follow?_cons_eq_some {n : Nat} {route : List Nat} :
    s.follow? i (n :: route) = some j ↔
      ∃ l, (s.component i).targets[n]? = some l ∧ s.follow? l route = some j := by
  rw [follow?]
  cases (s.component i).targets[n]? <;> simp

end Schema
end ClassModel
