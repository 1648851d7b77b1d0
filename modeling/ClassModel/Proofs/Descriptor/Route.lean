import ClassModel.Proofs.Descriptor.Site
import Mathlib.Data.List.Nodup

/-!
# Routes of a class tree

A route goes down a tree by positions: at each class it gives the position of a subclass. So each
class of a tree stands at one route, also where two classes are equal, and laws that count classes
are stated over routes. The classes that writers see are those at the routes, in depth-first order
(`mem_preorder_iff`), and their names are distinct exactly if no two routes lead to one name
(`nodup_names_preorder_iff`).
-/

set_option autoImplicit false

namespace ClassModel
namespace Descriptor

variable {d e u : Descriptor} {above : List Descriptor} {n : Nat} {route : List Nat}

/-- The class at the end of a route, which gives one position among subclasses after the other. -/
def at? : Descriptor → List Nat → Option Descriptor
  | d, [] => some d
  | d, n :: route =>
    match d.subclasses[n]? with
    | none => none
    | some sub => sub.at? route

@[simp] theorem at?_nil (d : Descriptor) : d.at? [] = some d := rfl

theorem at?_cons_eq_some :
    d.at? (n :: route) = some e ↔ ∃ sub, d.subclasses[n]? = some sub ∧ sub.at? route = some e := by
  rw [at?]
  cases d.subclasses[n]? <;> simp

/-! ## Routes and sites -/

theorem exists_site_of_at? (h : d.at? route = some e) : ∃ above, Site d above e := by
  induction route generalizing d with
  | nil =>
    cases h
    exact ⟨[], .root _⟩
  | cons n route ih =>
    obtain ⟨sub, hsub, h⟩ := at?_cons_eq_some.mp h
    obtain ⟨above, hs⟩ := ih h
    exact ⟨d :: above, .under (List.mem_of_getElem? hsub) hs⟩

theorem exists_route_of_site (h : Site d above e) : ∃ route, d.at? route = some e := by
  induction h with
  | root d => exact ⟨[], rfl⟩
  | under hsub _ ih =>
    obtain ⟨route, hr⟩ := ih
    obtain ⟨n, hn⟩ := List.getElem?_of_mem hsub
    exact ⟨n :: route, at?_cons_eq_some.mpr ⟨_, hn, hr⟩⟩

/-- The last union above a class lists the class and stands in the tree itself. -/
theorem Site.mem_subclasses_of_last (h : Site d above e) (hu : above.getLast? = some u) :
    e ∈ u.subclasses ∧ ∃ pre, Site d pre u := by
  induction h with
  | root => cases hu
  | @under d sub e above hsub hs ih =>
    cases hs with
    | root =>
      cases hu
      exact ⟨hsub, [], .root _⟩
    | under hsub' hs' =>
      obtain ⟨he, pre, hpre⟩ := ih (by simpa [List.getLast?_cons] using hu)
      exact ⟨he, d :: pre, .under hsub hpre⟩

/-! ## Depth-first order -/

/-- The classes of a tree, each before its subclasses. -/
def preorder (d : Descriptor) : List Descriptor := (d.placed none).map (·.2)

theorem map_snd_placed (a : Option Descriptor) (d : Descriptor) :
    (d.placed a).map (·.2) = d :: d.subclasses.flatMap preorder := by
  induction d using treeInduction generalizing a with
  | single head fields => rfl
  | union head discriminator common tags subs ih =>
    rw [placed, placedAll_eq_flatMap, List.map_cons, List.map_flatMap, subclasses]
    congr 1
    rw [List.flatMap_def, List.flatMap_def]
    congr 1
    refine List.map_congr_left ?_
    intro sub hsub
    rw [preorder, ih sub hsub, ih sub hsub]

theorem preorder_eq (d : Descriptor) : d.preorder = d :: d.subclasses.flatMap preorder :=
  map_snd_placed none d

/-- The classes in depth-first order are those at the routes. -/
theorem mem_preorder_iff : e ∈ d.preorder ↔ ∃ route, d.at? route = some e := by
  constructor
  · intro h
    obtain ⟨⟨a, e'⟩, hm, rfl⟩ := List.mem_map.mp h
    obtain ⟨above, hs, _⟩ := mem_placed_iff.mp hm
    exact exists_route_of_site hs
  · rintro ⟨route, h⟩
    obtain ⟨above, hs⟩ := exists_site_of_at? h
    exact List.mem_map.mpr ⟨(above.getLast?.or none, e), mem_placed_iff.mpr ⟨above, hs, rfl⟩, rfl⟩

/-- `d.NamesOnce`: no two routes of the tree lead to one name. -/
def NamesOnce (d : Descriptor) : Prop :=
  ∀ route route' a b, d.at? route = some a → d.at? route' = some b → a.name = b.name →
    route = route'

theorem NamesOnce.of_subclass {sub : Descriptor} (h : d.NamesOnce)
    (hn : d.subclasses[n]? = some sub) : sub.NamesOnce := by
  intro route route' a b ha hb hab
  have heq := h (n :: route) (n :: route') a b (at?_cons_eq_some.mpr ⟨sub, hn, ha⟩)
    (at?_cons_eq_some.mpr ⟨sub, hn, hb⟩) hab
  exact (List.cons.inj heq).2

theorem mem_names_preorder_iff {name : String} :
    name ∈ d.preorder.map (·.name) ↔ ∃ route e, d.at? route = some e ∧ e.name = name := by
  rw [List.mem_map]
  constructor
  · rintro ⟨e, he, rfl⟩
    obtain ⟨route, hr⟩ := mem_preorder_iff.mp he
    exact ⟨route, e, hr, rfl⟩
  · rintro ⟨route, e, hr, rfl⟩
    exact ⟨e, mem_preorder_iff.mpr ⟨route, hr⟩, rfl⟩

/-- The names of a tree are distinct if the root's is not below it, those below each subclass are
distinct, and no two subclasses share one. -/
theorem nodup_names_preorder_cons :
    (d.preorder.map (·.name)).Nodup ↔
      (∀ sub ∈ d.subclasses, d.name ∉ sub.preorder.map (·.name)) ∧
      (∀ sub ∈ d.subclasses, (sub.preorder.map (·.name)).Nodup) ∧
      d.subclasses.Pairwise fun a b =>
        (a.preorder.map (·.name)).Disjoint (b.preorder.map (·.name)) := by
  rw [preorder_eq, List.map_cons, List.nodup_cons, List.map_flatMap, List.nodup_flatMap,
    List.mem_flatMap, not_exists]
  refine and_congr_left fun _ => forall_congr' fun sub => ?_
  rw [not_and]

/-- A class below the root is named below one of the subclasses. -/
theorem name_mem_of_at?_cons (h : d.at? (n :: route) = some e) :
    ∃ sub, d.subclasses[n]? = some sub ∧ sub.at? route = some e ∧
      e.name ∈ sub.preorder.map (·.name) := by
  obtain ⟨sub, hsub, he⟩ := at?_cons_eq_some.mp h
  exact ⟨sub, hsub, he, mem_names_preorder_iff.mpr ⟨route, e, he, rfl⟩⟩

/-- The same three conditions for routes. -/
theorem namesOnce_iff :
    d.NamesOnce ↔
      (∀ sub ∈ d.subclasses, d.name ∉ sub.preorder.map (·.name)) ∧
      (∀ sub ∈ d.subclasses, sub.NamesOnce) ∧
      d.subclasses.Pairwise fun a b =>
        (a.preorder.map (·.name)).Disjoint (b.preorder.map (·.name)) := by
  constructor
  · intro h
    refine ⟨?_, ?_, ?_⟩
    · intro sub hsub hmem
      obtain ⟨route, e, he, hname⟩ := mem_names_preorder_iff.mp hmem
      obtain ⟨n, hn⟩ := List.getElem?_of_mem hsub
      have heq := h (n :: route) [] e d (at?_cons_eq_some.mpr ⟨sub, hn, he⟩) rfl hname
      cases heq
    · intro sub hsub
      obtain ⟨n, hn⟩ := List.getElem?_of_mem hsub
      exact h.of_subclass hn
    · rw [List.pairwise_iff_getElem]
      intro n m hn hm hlt
      rw [List.disjoint_left]
      intro name hmem hmem'
      obtain ⟨route, a, ha, rfl⟩ := mem_names_preorder_iff.mp hmem
      obtain ⟨route', b, hb, hab⟩ := mem_names_preorder_iff.mp hmem'
      have heq := h (n :: route) (m :: route') a b
        (at?_cons_eq_some.mpr ⟨_, List.getElem?_eq_getElem hn, ha⟩)
        (at?_cons_eq_some.mpr ⟨_, List.getElem?_eq_getElem hm, hb⟩) hab.symm
      obtain ⟨rfl, _⟩ := List.cons.inj heq
      exact Nat.lt_irrefl _ hlt
  · rintro ⟨hroot, hsubs, hdisjoint⟩ route route' a b ha hb hab
    -- Two routes part at the root, at the same subclass later on, or at two subclasses.
    cases route with
    | nil =>
      cases route' with
      | nil => rfl
      | cons m route' =>
        obtain ⟨sub, hsub, _, hmem⟩ := name_mem_of_at?_cons hb
        cases ha
        exact absurd (hab ▸ hmem) (hroot sub (List.mem_of_getElem? hsub))
    | cons n route =>
      obtain ⟨sub, hsub, ha', hmem⟩ := name_mem_of_at?_cons ha
      cases route' with
      | nil =>
        cases hb
        exact absurd (hab ▸ hmem) (hroot sub (List.mem_of_getElem? hsub))
      | cons m route' =>
        obtain ⟨sub', hsub', hb', hmem'⟩ := name_mem_of_at?_cons hb
        obtain ⟨hn, rfl⟩ := List.getElem?_eq_some_iff.mp hsub
        obtain ⟨hm, rfl⟩ := List.getElem?_eq_some_iff.mp hsub'
        rcases Nat.lt_trichotomy n m with hlt | rfl | hlt
        · have hd := List.pairwise_iff_getElem.mp hdisjoint n m hn hm hlt
          exact absurd (hab ▸ hmem') (List.disjoint_left.mp hd hmem)
        · rw [hsubs _ (List.getElem_mem hn) _ _ _ _ ha' hb' hab]
        · have hd := List.pairwise_iff_getElem.mp hdisjoint m n hm hn hlt
          exact absurd (hab ▸ hmem) (List.disjoint_left.mp hd hmem')

/-- **The names of a tree are distinct exactly if no two routes lead to one name.** -/
theorem nodup_names_preorder_iff : (d.preorder.map (·.name)).Nodup ↔ d.NamesOnce := by
  induction d using treeInduction with
  | single head fields =>
    rw [nodup_names_preorder_cons, namesOnce_iff]
    simp [subclasses]
  | union head discriminator common tags subs ih =>
    rw [nodup_names_preorder_cons, namesOnce_iff]
    have hsubs : (∀ sub ∈ subs, (sub.preorder.map (·.name)).Nodup) ↔
        ∀ sub ∈ subs, sub.NamesOnce :=
      forall₂_congr ih
    rw [subclasses, hsubs]

end Descriptor
end ClassModel
