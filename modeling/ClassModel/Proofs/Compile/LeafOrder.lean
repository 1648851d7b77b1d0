import ClassModel.Proofs.Compile.FirstByName
import ClassModel.Proofs.Compile.WalkFaults

/-!
# The order of a union's leaves

A route gives one position in a mapping after the other, and a leaf may stand at the end of several
routes. Of two routes the one that takes the smaller position where they part is met first, going
depth first (`Earlier`). Each leaf of an unfolded union is found at all routes that lead to it, and
the flattened leaves stand in the order of the routes (`mem_placesFrom_iff`, `pairwise_places`). So
keeping the first leaf of each name keeps the one at the first of all routes that lead to the name
(`firstLeaves_of_unfold`).

A union has no leaves exactly if one of its walks stops (`exists_walkFault_iff`). That a fault comes
with such a walk is known; here is the way back, which follows the walk through the unfolding.

A walk has any length here: the bound that an interpreter sets to the depth of calls is not
modelled.
-/

set_option autoImplicit false

namespace ClassModel

/-- The order in which routes are met, depth first. -/
def Earlier : List Nat → List Nat → Prop := List.Lex (· < ·)

theorem Earlier.cons {n : Nat} {r r' : List Nat} (h : Earlier r r') :
    Earlier (n :: r) (n :: r') :=
  List.Lex.cons h

theorem Earlier.of_lt {n m : Nat} (h : n < m) (r r' : List Nat) :
    Earlier (n :: r) (m :: r') :=
  List.Lex.rel h

/-! ## Leaves and the routes to them -/

namespace Unfolding

variable {ι : Type}

mutual

/-- The leaves of a tree, depth first, each with the route to it. -/
def places : Unfolding ι → List (List Nat × ι)
  | .leaf i => [([], i)]
  | .union _ variants => placesFrom 0 variants

/-- The leaves of several trees, the first of which stands at position `n`. -/
def placesFrom (n : Nat) : List (Unfolding ι) → List (List Nat × ι)
  | [] => []
  | u :: rest => (places u).map (fun p => (n :: p.1, p.2)) ++ placesFrom (n + 1) rest

end

variable {us : List (Unfolding ι)} {n : Nat} {r : List Nat} {l : ι}

/-- The route to a leaf of several trees starts with the position of one of them. -/
theorem mem_placesFrom_iff :
    (r, l) ∈ placesFrom n us ↔
      ∃ m u r', us[m]? = some u ∧ (r', l) ∈ u.places ∧ r = (n + m) :: r' := by
  induction us generalizing n with
  | nil => simp [placesFrom]
  | cons u rest ih =>
    rw [placesFrom, List.mem_append, ih, List.mem_map]
    constructor
    · intro h
      rcases h with ⟨⟨r', l'⟩, hp, heq⟩ | ⟨m, v, r', hv, hp, hr⟩
      · cases heq
        exact ⟨0, u, r', rfl, hp, rfl⟩
      · refine ⟨m + 1, v, r', hv, hp, ?_⟩
        rw [hr, Nat.add_assoc, Nat.add_comm 1 m]
    · intro h
      obtain ⟨m, v, r', hv, hp, hr⟩ := h
      cases m with
      | zero =>
        cases hv
        exact Or.inl ⟨(r', l), hp, by rw [hr, Nat.add_zero]⟩
      | succ m =>
        refine Or.inr ⟨m, v, r', hv, hp, ?_⟩
        rw [hr, Nat.add_assoc, Nat.add_comm 1 m]

theorem map_snd_placesFrom (h : ∀ u ∈ us, u.places.map (·.2) = u.leaves) :
    (placesFrom n us).map (·.2) = leavesAll us := by
  induction us generalizing n with
  | nil => rfl
  | cons u rest ih =>
    obtain ⟨hu, hrest⟩ := List.forall_mem_cons.mp h
    rw [placesFrom, leavesAll, List.map_append, List.map_map, ih hrest, ← hu]
    rfl

/-- Without the routes they are the leaves of the tree. -/
theorem map_snd_places (u : Unfolding ι) : u.places.map (·.2) = u.leaves := by
  induction u using treeInduction with
  | leaf i => rfl
  | union i variants ih =>
    rw [places, leaves]
    exact map_snd_placesFrom ih

theorem pairwise_placesFrom
    (h : ∀ u ∈ us, u.places.Pairwise fun p q => Earlier p.1 q.1) :
    (placesFrom n us).Pairwise fun p q => Earlier p.1 q.1 := by
  induction us generalizing n with
  | nil => exact .nil
  | cons u rest ih =>
    obtain ⟨hu, hrest⟩ := List.forall_mem_cons.mp h
    rw [placesFrom, List.pairwise_append]
    refine ⟨?_, ih hrest, ?_⟩
    · rw [List.pairwise_map]
      exact hu.imp fun hpq => hpq.cons
    · -- The first tree stands at a smaller position than the others.
      intro p hp q hq
      obtain ⟨p', _, rfl⟩ := List.mem_map.mp hp
      obtain ⟨r', l'⟩ := q
      obtain ⟨m, _, r'', _, _, rfl⟩ := mem_placesFrom_iff.mp hq
      exact .of_lt (by omega) p'.1 r''

/-- Leaves stand in the order of the routes to them. -/
theorem pairwise_places (u : Unfolding ι) :
    u.places.Pairwise fun p q => Earlier p.1 q.1 := by
  induction u using treeInduction with
  | leaf i =>
    rw [places]
    exact List.pairwise_singleton _ _
  | union i variants ih =>
    rw [places]
    exact pairwise_placesFrom ih

end Unfolding

/-! ## The leaves of a union -/

namespace Schema

variable {s : Schema} {i j l : s.Id} {vs : List (Unfolding s.Id)} {leaves : List s.Id}
  {r : List Nat} {ids : List s.Id}

theorem reaches_iff_follow : s.Reaches i l ↔ ∃ route, s.follow? i route = some l := by
  constructor
  · intro h
    induction h using Relation.ReflTransGen.head_induction_on with
    | refl => exact ⟨[], rfl⟩
    | head hlist _ ih =>
      obtain ⟨route, hroute⟩ := ih
      obtain ⟨n, hn⟩ := List.getElem?_of_mem hlist
      exact ⟨n :: route, follow?_cons_eq_some.mpr ⟨_, hn, hroute⟩⟩
  · intro h
    obtain ⟨route, hroute⟩ := h
    induction route generalizing i with
    | nil =>
      cases hroute
      exact .refl
    | cons n route ih =>
      obtain ⟨j, hj, hroute⟩ := follow?_cons_eq_some.mp hroute
      exact .head (List.mem_of_getElem? hj) (ih hroute)

/-- The plain component `l` stands at the end of the route. -/
def PlainAt (s : Schema) (i : s.Id) (r : List Nat) (l : s.Id) : Prop :=
  s.follow? i r = some l ∧ (s.component l).isUnion = false

/-- Going on from a union takes one of its variants first. -/
theorem plainAt_iff (hi : (s.component i).isUnion = true) :
    s.PlainAt i r l ↔ ∃ n j r', (s.component i).targets[n]? = some j ∧ s.PlainAt j r' l ∧
      r = n :: r' := by
  cases r with
  | nil =>
    constructor
    · intro h
      obtain ⟨hl, hplain⟩ := h
      cases hl
      rw [hi] at hplain
      cases hplain
    · intro h
      obtain ⟨_, _, _, _, _, hr⟩ := h
      cases hr
  | cons n r =>
    unfold PlainAt
    rw [follow?_cons_eq_some]
    constructor
    · intro h
      obtain ⟨⟨j, hj, hr⟩, hplain⟩ := h
      exact ⟨n, j, r, hj, ⟨hr, hplain⟩, rfl⟩
    · intro h
      obtain ⟨m, j, r', hj, ⟨hr, hplain⟩, heq⟩ := h
      cases heq
      exact ⟨⟨j, hj, hr⟩, hplain⟩

theorem plainAt_of_plain (hi : (s.component i).isUnion = false) :
    s.PlainAt i r l ↔ (r, l) = ([], i) := by
  constructor
  · intro h
    have hl : l = i := (reaches_iff_follow.mpr ⟨r, h.1⟩).eq_of_plain hi
    cases r with
    | nil => rw [hl]
    | cons n r =>
      obtain ⟨j, hj, _⟩ := follow?_cons_eq_some.mp h.1
      rw [Component.isUnion_of_mem_targets (List.mem_of_getElem? hj)] at hi
      cases hi
  · intro h
    cases h
    exact ⟨rfl, hi⟩

theorem mem_placesFrom_of_growsTo {ts : List s.Id}
    (hgrow : List.Forall₂ s.GrowsTo ts vs)
    (h : ∀ v ∈ vs, ∀ j, s.GrowsTo j v → ∀ r l, (r, l) ∈ v.places ↔ s.PlainAt j r l) :
    (r, l) ∈ Unfolding.placesFrom 0 vs ↔
      ∃ n j r', ts[n]? = some j ∧ s.PlainAt j r' l ∧ r = n :: r' := by
  rw [Unfolding.mem_placesFrom_iff]
  constructor
  · intro hp
    obtain ⟨n, v, r', hv, hp, rfl⟩ := hp
    obtain ⟨j, hj, hjv⟩ := exists_left_of_getElem? hgrow hv
    refine ⟨n, j, r', hj, (h v (List.mem_of_getElem? hv) j hjv r' l).mp hp, ?_⟩
    rw [Nat.zero_add]
  · intro hp
    obtain ⟨n, j, r', hj, hp, rfl⟩ := hp
    obtain ⟨v, hv, hjv⟩ := exists_right_of_getElem? hgrow hj
    refine ⟨n, v, r', hv, (h v (List.mem_of_getElem? hv) j hjv r' l).mpr hp, ?_⟩
    rw [Nat.zero_add]

/-- **The leaves of a tree stand where plain components do**, at all routes that lead to them. -/
theorem mem_places_of_growsTo (v : Unfolding s.Id) :
    ∀ j, s.GrowsTo j v → ∀ r l, (r, l) ∈ v.places ↔ s.PlainAt j r l := by
  induction v using Unfolding.treeInduction with
  | leaf i =>
    intro j hgrow r l
    cases hgrow with
    | leaf hi =>
      rw [plainAt_of_plain hi, Unfolding.places, List.mem_singleton]
  | union i variants ih =>
    intro j hgrow r l
    cases hgrow with
    | union hi hv =>
      rw [plainAt_iff hi, Unfolding.places]
      exact mem_placesFrom_of_growsTo (forall₂_growsTo hv) ih

/-- No route to the name of `l` is earlier than `r`, and `r` leads to `l`. -/
def FirstPlace (s : Schema) (i : s.Id) (r : List Nat) (l : s.Id) : Prop :=
  s.PlainAt i r l ∧ ∀ r' l', s.PlainAt i r' l' → s.name l' = s.name l → r' = r ∨ Earlier r r'

/-- Each name of a plain component that `i` reaches is that of exactly one leaf, the one at the
first route to the name, and the leaves stand in the order of these routes. -/
structure FirstLeaves (s : Schema) (i : s.Id) (leaves : List s.Id) : Prop where
  complete : ∀ l, s.Reaches i l → (s.component l).isUnion = false →
    ∃ l' ∈ leaves, s.name l' = s.name l
  distinct : (leaves.map s.name).Nodup
  ordered : ∃ routes, routes.Pairwise Earlier ∧ List.Forall₂ (s.FirstPlace i) routes leaves

/-- **What a union unfolds to has the first leaf of each name**, in depth-first order. -/
theorem firstLeaves_of_unfold (hi : (s.component i).isUnion = true) (h : s.unfold i = .ok vs) :
    s.FirstLeaves i (s.distinctLeaves vs) := by
  have hplaces : ∀ r l, (r, l) ∈ Unfolding.placesFrom 0 vs ↔ s.PlainAt i r l :=
    mem_places_of_growsTo (.union i vs) i (.union hi h)
  have hleaves : (Unfolding.placesFrom 0 vs).map (·.2) = Unfolding.leavesAll vs :=
    Unfolding.map_snd_placesFrom fun u _ => Unfolding.map_snd_places u
  have hsorted := Unfolding.pairwise_placesFrom (n := 0) fun u (_ : u ∈ vs) =>
    Unfolding.pairwise_places u
  -- The places that are kept are those of the leaves that are kept.
  let kept := firstByName (fun p => s.name p.2) [] (Unfolding.placesFrom 0 vs)
  have hkept : kept.map (·.2) = s.distinctLeaves vs := by
    rw [distinctLeaves, ← hleaves]
    exact map_firstByName_comp
  refine ⟨?_, nodup_firstByName, kept.map (·.1), ?_, ?_⟩
  · intro l hl hplain
    obtain ⟨r, hr⟩ := reaches_iff_follow.mp hl
    have hmem : l ∈ Unfolding.leavesAll vs := by
      rw [← hleaves]
      exact List.mem_map_of_mem ((hplaces r l).mpr ⟨hr, hplain⟩)
    have hname : s.name l ∈ [] ++ firstByName id [] ((Unfolding.leavesAll vs).map s.name) :=
      mem_firstByName_iff.mpr (List.mem_map_of_mem hmem)
    rw [List.nil_append, ← map_firstByName] at hname
    exact List.mem_map.mp hname
  · rw [List.pairwise_map]
    exact hsorted.sublist sublist_firstByName
  · rw [← hkept, List.forall₂_map_left_iff, List.forall₂_map_right_iff, List.forall₂_same]
    intro p hp
    refine ⟨(hplaces p.1 p.2).mp (mem_of_mem_firstByName hp), ?_⟩
    intro r' l' hr' hname
    rcases first_of_mem_firstByName hsorted hp ((hplaces r' l').mpr hr') hname with heq | hlt
    · exact Or.inl (congrArg Prod.fst heq)
    · exact Or.inr hlt

/-! ## When a union has leaves -/

/-- A union that unfolds is unfolded along each of its walks. -/
theorem exists_unfoldFrom_of_walk (h : s.unfold i = .ok vs) (hw : s.Walk i ids j)
    (hj : (s.component j).isUnion = true) :
    ∃ depth below, s.unfoldFrom depth ((ids ++ [j]).map s.name) j = .ok below := by
  induction ids using List.reverseRecOn generalizing j with
  | nil =>
    cases hw.start
    exact ⟨s.size, vs, h⟩
  | append_singleton ids p ih =>
    -- The walk without its last step is a walk, and unfolding its end lists the last step.
    have hlist : s.Lists p j := by
      have hpair := (List.isChain_append.mp hw.chain).2.2
      exact hpair p (by simp) j (by simp)
    have hwalk : s.Walk i ids p := by
      refine ⟨?_, (List.isChain_append.mp hw.chain).1, ?_⟩
      · have hstart := hw.start
        rwa [List.head?_append_of_ne_nil _ (by simp)] at hstart
      · have hdistinct := hw.distinct
        rw [List.map_append] at hdistinct
        exact hdistinct.of_append_left
    obtain ⟨depth, below, hbelow⟩ := ih hwalk hlist.isUnion_eq
    cases depth with
    | zero => cases hbelow
    | succ depth =>
      obtain ⟨_, hbranches⟩ := unfoldFrom_eq_ok_iff.mp hbelow
      obtain ⟨v, _, hv⟩ := exists_right_of_forall₂ hbranches hlist
      cases hv with
      | leaf hplain =>
        rw [hj] at hplain
        cases hplain
      | union _ _ hv =>
        rw [← List.map_singleton, ← List.map_append] at hv
        exact ⟨depth, _, hv⟩

/-- A union with a walk that stops does not unfold. -/
theorem unfold_ne_ok_of_walkFault {f : SchemaFault} (hf : s.WalkFault i f) :
    s.unfold i ≠ .ok vs := by
  intro h
  cases hf with
  | empty hw hu hempty =>
    obtain ⟨depth, below, hbelow⟩ := exists_unfoldFrom_of_walk h hw hu
    cases depth with
    | zero => cases hbelow
    | succ depth => exact (unfoldFrom_eq_ok_iff.mp hbelow).1 hempty
  | cyclic hw hl hj hmem =>
    obtain ⟨depth, below, hbelow⟩ := exists_unfoldFrom_of_walk h hw hl.isUnion_eq
    cases depth with
    | zero => cases hbelow
    | succ depth =>
      obtain ⟨_, hbranches⟩ := unfoldFrom_eq_ok_iff.mp hbelow
      obtain ⟨v, _, hv⟩ := exists_right_of_forall₂ hbranches hl
      cases hv with
      | leaf hplain =>
        rw [hj] at hplain
        cases hplain
      | union _ hnew _ => exact hnew hmem

/-- **A union does not unfold exactly if one of its walks stops.** -/
theorem exists_walkFault_iff (hi : (s.component i).isUnion = true) :
    (∃ f, s.unfold i = .error f) ↔ ∃ f, s.WalkFault i f := by
  constructor
  · intro h
    obtain ⟨f, hf⟩ := h
    exact ⟨f, walkFault_of_unfold hi hf⟩
  · intro h
    obtain ⟨f, hf⟩ := h
    cases hunfold : s.unfold i with
    | error f' => exact ⟨f', rfl⟩
    | ok vs => exact absurd hunfold (unfold_ne_ok_of_walkFault hf)

/-- **The leaves of a union.** Unfolding ends by itself, whatever the mappings are. It stops exactly
if some walk with distinct names comes to a union that lists nothing, or that lists a union whose
name stands on the walk; a fault about a cycle spells out such a walk and the name that comes again.
Otherwise the leaves are the first plain component of each name that is reached, in depth-first
order. -/
theorem leafVariants_exact (hi : (s.component i).isUnion = true) :
    (∀ depth, s.size ≤ depth → s.unfoldFrom depth [s.name i] i = s.unfold i) ∧
    ((∃ f, s.leafVariants i = .error (.schema f)) ↔ ∃ f, s.WalkFault i f) ∧
    (∀ e, s.leafVariants i = .error e → ∃ f, e = .schema f ∧ s.WalkFault i f) ∧
    (∀ names, s.leafVariants i = .error (.schema (.cyclicMapping names)) →
      (SchemaFault.cyclicMapping names).message =
        "Cyclic discriminator mapping: " ++ " -> ".intercalate names ∧
      ∃ ids u j, s.Walk i ids u ∧ s.Lists u j ∧ (s.component j).isUnion = true ∧
        s.name j ∈ (ids ++ [u]).map s.name ∧ names = (ids ++ [u]).map s.name ++ [s.name j]) ∧
    ((¬ ∃ f, s.WalkFault i f) →
      ∃ leaves, s.leafVariants i = .ok leaves ∧ s.FirstLeaves i leaves) := by
  have hfault : ∀ e, s.leafVariants i = .error e → ∃ f, e = .schema f ∧ s.WalkFault i f := by
    intro e he
    rcases leafVariants_eq_error_iff.mp he with ⟨hplain, _⟩ | ⟨_, f, hf, rfl⟩
    · rw [hi] at hplain
      cases hplain
    · exact ⟨f, rfl, walkFault_of_unfold hi hf⟩
  refine ⟨fun depth hd => unfoldFrom_eq_unfold hd, ?_, hfault, ?_, ?_⟩
  · constructor
    · intro h
      obtain ⟨f, hf⟩ := h
      obtain ⟨f', _, hwalk⟩ := hfault _ hf
      exact ⟨f', hwalk⟩
    · intro h
      obtain ⟨f, hf⟩ := (exists_walkFault_iff hi).mpr h
      exact ⟨f, leafVariants_eq_error_iff.mpr (Or.inr ⟨hi, f, hf, rfl⟩)⟩
  · -- The names of a fault about a cycle are those of the walk that it was found on.
    intro names hnames
    refine ⟨rfl, ?_⟩
    obtain ⟨f, heq, hwalk⟩ := hfault _ hnames
    cases heq
    cases hwalk with
    | cyclic hw hl hj hmem => exact ⟨_, _, _, hw, hl, hj, hmem, rfl⟩
  · intro hnone
    cases hunfold : s.unfold i with
    | error f => exact absurd ((exists_walkFault_iff hi).mp ⟨f, hunfold⟩) hnone
    | ok vs =>
      exact ⟨_, leafVariants_eq_ok_iff.mpr ⟨hi, vs, hunfold, rfl⟩,
        firstLeaves_of_unfold hi hunfold⟩

end Schema

/-! ## Two cards -/

namespace TwoCards

def plain (name : String) : Component (Fin 5) where
  name := name
  fields := []
  distinct := List.nodup_nil

/-- A payment may be a transfer or a card, and a transfer may be a wire or a card; the two cards are
different components. -/
def schema : Schema where
  size := 5
  key i := ["Payment", "Transfer", "Card", "Wire", "TransferCard"][i]
  component i := [
    { name := "Payment", fields := [],
      discriminator := some ⟨.str "type", [("TRANSFER", (1 : Fin 5)), ("CARD", 2)]⟩,
      distinct := List.nodup_nil },
    { name := "Transfer", fields := [],
      discriminator := some ⟨.str "kind", [("WIRE", 3), ("CARD", 4)]⟩,
      distinct := List.nodup_nil },
    plain "Card", plain "Wire", plain "Card"][i]

/-- The card that a payment has is that of the transfers, which is met first. -/
theorem payment_leaves :
    (schema.component (0 : Fin 5)).isUnion = true ∧
      schema.FirstLeaves (0 : Fin 5) [(3 : Fin 5), (4 : Fin 5)] := by
  have hleaves : schema.leafVariants (0 : Fin 5) = .ok [(3 : Fin 5), (4 : Fin 5)] := rfl
  obtain ⟨_, hstops, _, _, hok⟩ := Schema.leafVariants_exact (s := schema) (i := (0 : Fin 5)) rfl
  have hnone : ¬ ∃ f, schema.WalkFault (0 : Fin 5) f := by
    intro hwalk
    obtain ⟨f, hf⟩ := hstops.mpr hwalk
    rw [hleaves] at hf
    cases hf
  obtain ⟨leaves, hl, hfirst⟩ := hok hnone
  rw [hleaves] at hl
  cases hl
  exact ⟨rfl, hfirst⟩

end TwoCards
end ClassModel
