import ClassModel.Proofs.Compile.LeafOrder
import ClassModel.Proofs.Descriptor.Route

/-!
# The classes of a tree in depth-first order

Writers see a list of classes, and a list cannot tell where in the tree an item comes from: equal
classes may stand at several places. `routes` lists the places themselves. It has every route of
the tree exactly once, ordered as positions are compared one after the other, so that a class comes
before all classes below it (`mem_routes_iff`, `pairwise_routes`). The list that writers see stands
item by item beside it (`forall₂_placed`), and whatever is written of a tree is compared with the
routes.
-/

set_option autoImplicit false

namespace ClassModel

/-! ## The order of routes -/

theorem Earlier.irrefl (r : List Nat) : ¬ Earlier r r := by
  intro h
  induction r with
  | nil => cases h
  | cons n r ih =>
    cases h with
    | cons h => exact ih h
    | rel h => exact Nat.lt_irrefl n h

theorem Earlier.asymm {r r' : List Nat} (h : Earlier r r') : ¬ Earlier r' r := by
  intro h'
  induction h with
  | nil => cases h'
  | cons _ ih =>
    cases h' with
    | cons h' => exact ih h'
    | rel h' => exact Nat.lt_irrefl _ h'
  | rel hlt =>
    cases h' with
    | cons _ => exact Nat.lt_irrefl _ hlt
    | rel hlt' => exact Nat.lt_asymm hlt hlt'

/-- A route comes after the one to the union right above it. -/
theorem earlier_dropLast {r : List Nat} (h : r ≠ []) : Earlier r.dropLast r := by
  induction r with
  | nil => exact absurd rfl h
  | cons n r ih =>
    cases r with
    | nil => exact .nil
    | cons m r =>
      have hlast : Earlier (m :: r).dropLast (m :: r) := ih (by simp)
      exact hlast.cons

/-- In a list that is in order, what is earlier has the smaller position. -/
theorem lt_of_earlier {rs : List (List Nat)} (h : rs.Pairwise Earlier) {l n : Nat}
    {r r' : List Nat} (hl : rs[l]? = some r) (hn : rs[n]? = some r') (hr : Earlier r r') :
    l < n := by
  obtain ⟨hl, rfl⟩ := List.getElem?_eq_some_iff.mp hl
  obtain ⟨hn, rfl⟩ := List.getElem?_eq_some_iff.mp hn
  rcases Nat.lt_trichotomy l n with hlt | rfl | hlt
  · exact hlt
  · exact absurd hr (Earlier.irrefl _)
  · have hback : Earlier rs[n] rs[l] := List.pairwise_iff_getElem.mp h n l _ _ hlt
    exact absurd hr hback.asymm

namespace Descriptor

/-! ## Routes, each before those below it -/

mutual

/-- The routes of a tree, depth first. -/
def routes : Descriptor → List (List Nat)
  | .single _ _ => [[]]
  | .union _ _ _ _ subclasses => [] :: routesFrom 0 subclasses

/-- The routes of several trees, the first of which stands at position `n`. -/
def routesFrom (n : Nat) : List Descriptor → List (List Nat)
  | [] => []
  | d :: rest => (routes d).map (n :: ·) ++ routesFrom (n + 1) rest

end

variable {d : Descriptor} {ds : List Descriptor} {n : Nat} {r : List Nat}

theorem mem_routesFrom_iff :
    r ∈ routesFrom n ds ↔ ∃ m sub r', ds[m]? = some sub ∧ r' ∈ sub.routes ∧ r = (n + m) :: r' := by
  induction ds generalizing n with
  | nil => simp [routesFrom]
  | cons d rest ih =>
    rw [routesFrom, List.mem_append, ih, List.mem_map]
    constructor
    · intro h
      rcases h with ⟨r', hr', rfl⟩ | ⟨m, sub, r', hsub, hr', rfl⟩
      · exact ⟨0, d, r', rfl, hr', rfl⟩
      · refine ⟨m + 1, sub, r', hsub, hr', ?_⟩
        rw [Nat.add_assoc, Nat.add_comm 1 m]
    · intro h
      obtain ⟨m, sub, r', hsub, hr', rfl⟩ := h
      cases m with
      | zero =>
        cases hsub
        exact Or.inl ⟨r', hr', rfl⟩
      | succ m =>
        refine Or.inr ⟨m, sub, r', hsub, hr', ?_⟩
        rw [Nat.add_assoc, Nat.add_comm 1 m]

/-- **The routes are those at whose end a class stands.** -/
theorem mem_routes_iff : r ∈ d.routes ↔ ∃ e, d.at? r = some e := by
  induction d using treeInduction generalizing r with
  | single head fields =>
    rw [routes, List.mem_singleton]
    cases r with
    | nil => simp
    | cons n r => simp [at?_cons_eq_some, subclasses]
  | union head discriminator common tags subs ih =>
    rw [routes, List.mem_cons, mem_routesFrom_iff]
    cases r with
    | nil => simp
    | cons n r =>
      constructor
      · intro h
        rcases h with h | ⟨m, sub, r', hsub, hr', heq⟩
        · cases h
        · obtain ⟨rfl, rfl⟩ := List.cons.inj heq
          rw [Nat.zero_add]
          obtain ⟨e, he⟩ := (ih sub (List.mem_of_getElem? hsub)).mp hr'
          exact ⟨e, at?_cons_eq_some.mpr ⟨sub, hsub, he⟩⟩
      · intro h
        obtain ⟨e, h⟩ := h
        obtain ⟨sub, hsub, he⟩ := at?_cons_eq_some.mp h
        have hmem : r ∈ sub.routes := (ih sub (List.mem_of_getElem? hsub)).mpr ⟨e, he⟩
        exact Or.inr ⟨n, sub, r, hsub, hmem, by rw [Nat.zero_add]⟩

theorem pairwise_routesFrom (h : ∀ d ∈ ds, d.routes.Pairwise Earlier) :
    (routesFrom n ds).Pairwise Earlier := by
  induction ds generalizing n with
  | nil => exact .nil
  | cons d rest ih =>
    obtain ⟨hd, hrest⟩ := List.forall_mem_cons.mp h
    rw [routesFrom, List.pairwise_append]
    refine ⟨?_, ih hrest, ?_⟩
    · rw [List.pairwise_map]
      exact hd.imp fun hr => hr.cons
    · intro r hr r' hr'
      obtain ⟨r, _, rfl⟩ := List.mem_map.mp hr
      obtain ⟨m, _, r', _, _, rfl⟩ := mem_routesFrom_iff.mp hr'
      exact .of_lt (by omega) r r'

/-- **They stand in depth-first order**, and so each of them once. -/
theorem pairwise_routes (d : Descriptor) : d.routes.Pairwise Earlier := by
  induction d using treeInduction with
  | single head fields =>
    rw [routes]
    exact List.pairwise_singleton _ _
  | union head discriminator common tags subs ih =>
    rw [routes, List.pairwise_cons]
    refine ⟨?_, pairwise_routesFrom ih⟩
    intro r hr
    obtain ⟨m, _, r', _, _, rfl⟩ := mem_routesFrom_iff.mp hr
    exact .nil

theorem length_routesFrom (h : ∀ d ∈ ds, d.routes.length = d.classCount) :
    (routesFrom n ds).length = classCountAll ds := by
  induction ds generalizing n with
  | nil => rfl
  | cons d rest ih =>
    obtain ⟨hd, hrest⟩ := List.forall_mem_cons.mp h
    rw [routesFrom, classCountAll, List.length_append, List.length_map, hd, ih hrest]

/-- There are as many routes as classes. -/
theorem length_routes (d : Descriptor) : d.routes.length = d.classCount := by
  induction d using treeInduction with
  | single head fields => rfl
  | union head discriminator common tags subs ih =>
    rw [routes, classCount, List.length_cons, length_routesFrom ih, Nat.add_comm]

/-! ## What writers see -/

/-- `d.Over top r a`: right above the class at the end of the route `r` stands the union `a`; above
the root it is `top`. -/
def Over (d : Descriptor) (top : Option Descriptor) (r : List Nat) (a : Option Descriptor) : Prop :=
  (r = [] → a = top) ∧ (r ≠ [] → ∃ u, d.at? r.dropLast = some u ∧ a = some u)

theorem Over.below {sub : Descriptor} {top a : Option Descriptor}
    (hsub : d.subclasses[n]? = some sub) (h : sub.Over (some d) r a) : d.Over top (n :: r) a := by
  obtain ⟨hroot, hbelow⟩ := h
  refine ⟨by simp, ?_⟩
  intro _
  cases r with
  | nil => exact ⟨d, rfl, hroot rfl⟩
  | cons m r =>
    obtain ⟨u, hu, ha⟩ := hbelow (by simp)
    exact ⟨u, at?_cons_eq_some.mpr ⟨sub, hsub, hu⟩, ha⟩

theorem forall₂_placedAll {a : Option Descriptor}
    {P : List Nat → Option Descriptor × Descriptor → Prop}
    (h : ∀ m sub, ds[m]? = some sub →
      List.Forall₂ (fun r p => P ((n + m) :: r) p) sub.routes (sub.placed a)) :
    List.Forall₂ P (routesFrom n ds) (placedAll a ds) := by
  induction ds generalizing n with
  | nil => exact .nil
  | cons d rest ih =>
    rw [routesFrom, placedAll]
    refine List.rel_append ?_ ?_
    · rw [List.forall₂_map_left_iff]
      exact h 0 d rfl
    · refine ih ?_
      intro m sub hsub
      have hnext := h (m + 1) sub hsub
      rw [Nat.add_comm m 1, ← Nat.add_assoc] at hnext
      exact hnext

/-- **The classes that writers see are those at the routes, in their order**, each with the union
right above it. -/
theorem forall₂_placed (d : Descriptor) (top : Option Descriptor) :
    List.Forall₂ (fun r p => d.at? r = some p.2 ∧ d.Over top r p.1) d.routes (d.placed top) := by
  induction d using treeInduction generalizing top with
  | single head fields =>
    rw [routes, placed]
    exact .cons ⟨rfl, fun _ => rfl, by simp⟩ .nil
  | union head discriminator common tags subs ih =>
    rw [routes, placed]
    refine .cons ⟨rfl, fun _ => rfl, by simp⟩ (forall₂_placedAll ?_)
    intro m sub hsub
    rw [Nat.zero_add]
    refine (ih sub (List.mem_of_getElem? hsub) (some _)).imp ?_
    intro r p hp
    exact ⟨at?_cons_eq_some.mpr ⟨sub, hsub, hp.1⟩, hp.2.below hsub⟩

end Descriptor
end ClassModel
