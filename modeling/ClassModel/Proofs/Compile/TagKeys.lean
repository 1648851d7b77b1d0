import ClassModel.Proofs.Compile.ClassTree
import ClassModel.Proofs.Compile.FirstByName

/-!
# The order of a union's tags

Three traversals list the leaves below a union: the flattening of its variants keeps the first leaf
of each name, merging the tags of the variants one after the other keeps each key where it was
first set, and the class tree has a single class for every place of a leaf. They agree: the keys of
the tags are the names of the single classes with repeats left out (`UnionClass.leafNames`), and
so are the names of the flattened leaves.
-/

set_option autoImplicit false

namespace ClassModel

/-- Merging keeps the keys and puts new ones at the end. -/
theorem Entries.keys_merge {α : Type} (es more : Entries α) :
    (es.merge more).keys = es.keys ++ firstByName id es.keys more.keys := by
  induction more generalizing es with
  | nil => simp [merge, keys, firstByName]
  | cons e rest ih =>
    obtain ⟨k, v⟩ := e
    have hstep : es.merge ((k, v) :: rest) = (es.set k v).merge rest := rfl
    have hkeys : keys ((k, v) :: rest) = k :: keys rest := rfl
    rw [hstep, ih, keys_set, hkeys]
    by_cases hk : k ∈ es.keys
    · rw [if_pos hk, firstByName_cons_of_mem hk]
    · have hmem : ∀ n, n ∈ es.keys ++ [k] ↔ n ∈ k :: es.keys := by
        intro n
        rw [List.mem_append, List.mem_singleton, List.mem_cons, or_comm]
      rw [if_neg hk, firstByName_cons_of_notMem hk, firstByName_congr hmem, List.append_assoc]
      rfl

namespace Descriptor

theorem leavesAll_eq_flatMap (ds : List Descriptor) : leavesAll ds = ds.flatMap leaves := by
  induction ds with
  | nil => rfl
  | cons d rest ih => rw [leavesAll, ih, List.flatMap_cons]

end Descriptor

namespace Compiler

variable {k : Compiler} {s : Schema} {inherit : Bool} {i : s.Id} {parent : List String}
  {variants : List (Unfolding s.Id)} {d : Descriptor}

theorem keys_foldl_merge (ps : List Part) (tags : Entries String) :
    (ps.foldl (fun tags p => tags.merge p.tags) tags).keys =
      tags.keys ++ firstByName id tags.keys (ps.flatMap (·.tags.keys)) := by
  induction ps generalizing tags with
  | nil => simp [firstByName]
  | cons p rest ih =>
    have hseen : ∀ n, n ∈ tags.keys ++ firstByName id tags.keys p.tags.keys ↔
        n ∈ tags.keys ++ p.tags.keys.map id := by
      intro n
      rw [mem_firstByName_iff, List.map_id]
    rw [List.foldl_cons, ih, Entries.keys_merge, List.flatMap_cons, firstByName_append,
      firstByName_congr hseen, List.append_assoc]

/-- `LeafNames names tags ds`: the single classes of the trees have the names, in this order, and
the tags have each of them as a key, where it comes first. -/
structure LeafNames (names : List String) (tags : Entries String) (ds : List Descriptor) :
    Prop where
  keys : tags.keys = firstByName id [] names
  leaves : (Descriptor.leavesAll ds).map (·.name) = names

/-- What holds of all parts holds of the union that is made of them. -/
theorem LeafNames.foldl_merge {vs : List (Unfolding s.Id)} {ps : List Part}
    (h : List.Forall₂ (fun v p => LeafNames (v.leaves.map s.name) p.tags [p.subclass]) vs ps) :
    LeafNames ((Unfolding.leavesAll vs).map s.name)
      (ps.foldl (fun tags p => tags.merge p.tags) []) (ps.map (·.subclass)) := by
  constructor
  · have hkeys : ps.flatMap (·.tags.keys) =
        vs.flatMap fun v => firstByName id [] (v.leaves.map s.name) :=
      (flatMap_eq_of_forall₂ (h.imp fun _ _ hp => hp.keys.symm)).symm
    rw [keys_foldl_merge, hkeys, Unfolding.leavesAll_eq_flatMap, List.map_flatMap]
    exact firstByName_flatMap
  · have hnames : vs.flatMap (fun v => v.leaves.map s.name) =
        ps.flatMap fun p => p.subclass.leaves.map (·.name) := by
      refine flatMap_eq_of_forall₂ (h.imp ?_)
      intro v p hp
      have hleaves := hp.leaves
      rw [Descriptor.leavesAll_eq_flatMap, List.flatMap_singleton] at hleaves
      exact hleaves.symm
    rw [Unfolding.leavesAll_eq_flatMap, List.map_flatMap, hnames, Descriptor.leavesAll_eq_flatMap,
      List.flatMap_map, List.map_flatMap]

/-- The names below a union, if those of its variants are known. -/
theorem UnionClass.leafNames_of
    (hv : ∀ v ∈ variants, ∀ w common p, k.compileVariant s inherit w common v = .ok p →
      LeafNames (v.leaves.map s.name) p.tags [p.subclass])
    (h : UnionClass k s inherit i variants parent d) :
    LeafNames ((Unfolding.leavesAll variants).map s.name) d.tags d.subclasses := by
  obtain ⟨_, ht, _⟩ := h
  exact LeafNames.foldl_merge (forall₂_of_traverse ht fun v hm p hp => hv v hm _ _ p hp)

/-- **What a variant brings is named like the leaves of its tree.** -/
theorem compileVariant_leafNames (v : Unfolding s.Id) : ∀ w common p,
    k.compileVariant s inherit w common v = .ok p →
      LeafNames (v.leaves.map s.name) p.tags [p.subclass] := by
  induction v using Unfolding.treeInduction with
  | leaf j =>
    intro w common p h
    obtain ⟨imports, tag, e, hleaf, rfl⟩ := compileVariant_leaf_eq_ok_iff.mp h
    refine ⟨rfl, ?_⟩
    have hname := hleaf.name_eq
    cases hleaf
    simpa [Descriptor.leavesAll, Descriptor.leaves, Unfolding.leaves] using hname
  | union j us ih =>
    intro w common p h
    obtain ⟨imports, e, _, hunion, rfl⟩ := compileVariant_union_eq_ok_iff.mp h
    have hnames := hunion.leafNames_of ih
    refine ⟨by simpa [Unfolding.leaves] using hnames.keys, ?_⟩
    have hleaves := hnames.leaves
    cases hunion
    simpa [Descriptor.leavesAll, Descriptor.leaves, Descriptor.subclasses, Unfolding.leaves]
      using hleaves

/-- **The keys of a union's tags are the names of its single classes**, repeats left out, and these
are named like the leaves of its variants. -/
theorem UnionClass.leafNames (h : UnionClass k s inherit i variants parent d) :
    LeafNames ((Unfolding.leavesAll variants).map s.name) d.tags d.subclasses :=
  h.leafNames_of fun v _ => compileVariant_leafNames v

end Compiler
end ClassModel
