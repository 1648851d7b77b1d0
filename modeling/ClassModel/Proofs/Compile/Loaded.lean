import ClassModel.Proofs.Compile.WalkFaults
import ClassModel.Proofs.Document.Faithful

/-!
# Walks of a loaded document

Cycles are looked for twice: in the references of a document while it is loaded, and on the walks of
a union while it is unfolded. The two look at different things, names of a document with all that is
under construction there, and names of components along one walk at a time.

The first covers the second. In a loaded document components have distinct names and none comes back
to itself, so no walk comes to a name again (`exists_hollow_of_walkFault`), and all that can stop
the leaves of a union, or its compilation, at a walk is a union that lists nothing
(`loaded_never_cyclic`).

Both take as many calls inside each other as a walk has unions. The bound that an interpreter sets
to the depth of calls is not modelled.
-/

set_option autoImplicit false

namespace ClassModel

/-! ## Schemas without cycles -/

namespace Schema

variable {s : Schema} {i v : s.Id} {f : SchemaFault}

/-- `s.Hollow v`: the union `v` lists nothing. -/
def Hollow (s : Schema) (v : s.Id) : Prop :=
  (s.component v).isUnion = true ∧ (s.component v).mapping = []

theorem hollow_iff :
    s.Hollow v ↔ (s.component v).isUnion = true ∧ (s.component v).targets = [] := by
  rw [Hollow, Component.targets, List.map_eq_nil_iff]

/-- **Where no component comes back to itself**, and names are distinct, a walk is stopped only by a
union that lists nothing. -/
theorem exists_hollow_of_walkFault (hn : Function.Injective s.name)
    (ha : ∀ j, ¬ s.ReachesBelow j j) (h : s.WalkFault i f) :
    ∃ v, s.Reaches i v ∧ s.Hollow v ∧ f = .emptyMapping (s.name v) := by
  cases h with
  | @empty ids u hw hu hempty => exact ⟨u, hw.reaches, hollow_iff.mpr ⟨hu, hempty⟩, rfl⟩
  | @cyclic ids u j hw hl _ hmem =>
    -- The name stands on the walk, so the component does, and leads to the end of it.
    obtain ⟨l, hl', hname⟩ := List.mem_map.mp hmem
    rw [hn hname] at hl'
    exact absurd (transGen_of_isChain (isChain_snoc hw.chain hl) hl') (ha j)

/-- A union that reaches one that lists nothing does not unfold. -/
theorem unfold_ne_ok_of_hollow {variants : List (Unfolding s.Id)} (hr : s.Reaches i v)
    (hv : s.Hollow v) : s.unfold i ≠ .ok variants := by
  intro hok
  obtain ⟨hu, hempty⟩ := hollow_iff.mp hv
  obtain ⟨below, hbelow⟩ := exists_unfold_of_reaches hok hr hu
  have hsize : 0 < s.size := Nat.lt_of_le_of_lt (Nat.zero_le _) v.isLt
  obtain ⟨n, hn⟩ : ∃ n, s.size = n + 1 := ⟨s.size - 1, by omega⟩
  rw [unfold, hn, unfoldFrom_succ, if_pos hempty] at hbelow
  cases hbelow

/-- Only a union reaches a union. -/
theorem isUnion_of_reaches (hr : s.Reaches i v) (hv : (s.component v).isUnion = true) :
    (s.component i).isUnion = true := by
  cases hi : (s.component i).isUnion with
  | true => rfl
  | false =>
    rw [hr.eq_of_plain hi, hi] at hv
    cases hv

/-- The leaves of a component, where no component comes back to itself: they are missing for a plain
component, and for a union that reaches one that lists nothing. -/
theorem leafVariants_fault (hn : Function.Injective s.name) (ha : ∀ j, ¬ s.ReachesBelow j j)
    {e : CompileFault} (h : s.leafVariants i = .error e) :
    ((s.component i).isUnion = false ∧ e = .notUnion (s.name i) "leaf flattening") ∨
      ∃ v, s.Reaches i v ∧ s.Hollow v ∧ e = .schema (.emptyMapping (s.name v)) := by
  rcases leafVariants_eq_error_iff.mp h with hplain | ⟨hi, f, hf, rfl⟩
  · exact Or.inl hplain
  · obtain ⟨v, hr, hv, rfl⟩ := exists_hollow_of_walkFault hn ha (walkFault_of_unfold hi hf)
    exact Or.inr ⟨v, hr, hv, rfl⟩

theorem exists_emptyMapping_iff (hn : Function.Injective s.name)
    (ha : ∀ j, ¬ s.ReachesBelow j j) :
    (∃ u, s.leafVariants i = .error (.schema (.emptyMapping u))) ↔
      ∃ v, s.Reaches i v ∧ s.Hollow v := by
  constructor
  · rintro ⟨u, hu⟩
    rcases leafVariants_fault hn ha hu with ⟨_, hplain⟩ | ⟨v, hr, hv, _⟩
    · cases hplain
    · exact ⟨v, hr, hv⟩
  · rintro ⟨v, hr, hv⟩
    have hi : (s.component i).isUnion = true := isUnion_of_reaches hr hv.1
    cases hunfold : s.unfold i with
    | ok variants => exact absurd hunfold (unfold_ne_ok_of_hollow hr hv)
    | error f =>
      obtain ⟨u, _, _, rfl⟩ := exists_hollow_of_walkFault hn ha (walkFault_of_unfold hi hunfold)
      exact ⟨s.name u, leafVariants_eq_error_iff.mpr (Or.inr ⟨hi, _, hunfold, rfl⟩)⟩

end Schema

/-! ## Loaded schemas -/

namespace Document

variable {raw : Entries Json} {catalog : Catalog} {s : Schema} {i j : s.Id} {document : Json}

/-- A component of a loaded schema is the one that its own entry of the document gives. -/
theorem exists_gives_of_ties (hn : raw.keys.Nodup) (h : List.Forall₂ StandsFor raw catalog)
    (ht : s.Ties catalog) (i : s.Id) : ∃ es, raw.get? (s.key i) = some (.obj es) ∧
      GivesComponent (s.key i) es ((s.component i).map s.key) :=
  (get?_eq_some_iff_gives hn h).mp (ht.component i)

/-- In a loaded schema a component has the name that others refer to it by. -/
theorem name_eq_key (hn : raw.keys.Nodup) (h : List.Forall₂ StandsFor raw catalog)
    (ht : s.Ties catalog) : s.name = s.key := by
  funext i
  obtain ⟨_, _, hgives⟩ := exists_gives_of_ties hn h ht i
  exact hgives.name

/-- In a loaded schema mappings follow the references of the document. -/
theorem refers_of_lists (hn : raw.keys.Nodup) (h : List.Forall₂ StandsFor raw catalog)
    (ht : s.Ties catalog) (hl : s.Lists i j) : Refers raw (s.key i) (s.key j) := by
  obtain ⟨es, hraw, hgives⟩ := exists_gives_of_ties hn h ht i
  refine (hgives.refers_iff hraw).mpr ?_
  rw [Component.targets_map]
  exact List.mem_map_of_mem hl

/-- **A loaded schema has distinct names and no cycle.** -/
theorem exists_acyclic_of_load (h : load document = .ok catalog) :
    ∃ s, Schema.ofCatalog catalog = .ok s ∧ s.keys = catalog.keys ∧ Function.Injective s.name ∧
      ∀ i, ¬ s.ReachesBelow i i := by
  obtain ⟨raw, hdoc, hknown, hacyclic, hstands⟩ := forall₂_standsFor h
  have hn : raw.keys.Nodup := nodup_keys_of_components? hdoc
  obtain ⟨s, hs, hties⟩ := exists_ofCatalog_of_standsFor hn hknown hstands
  have hkeys : catalog.keys.Nodup := keys_eq_of_standsFor hstands ▸ hn
  refine ⟨s, hs, hties.keys, ?_, fun i hcycle => ?_⟩
  · rw [name_eq_key hn hstands hties]
    exact hties.key_injective hkeys
  · exact hacyclic (s.key i) (hcycle.lift s.key fun _ _ => refers_of_lists hn hstands hties)

/-- **No walk of a loaded document is cyclic.** Neither the leaves of a component nor its
compilation, by whatever compiler and with or without inheritance, stop at a name that comes again.
The leaves are missing only for a plain component, and for a union that reaches one that lists
nothing; and there they are missing for that reason. -/
theorem loaded_never_cyclic (h : load document = .ok catalog) :
    ∃ s, Schema.ofCatalog catalog = .ok s ∧ s.keys = catalog.keys ∧ ∀ i : s.Id,
      (∀ walk, s.leafVariants i ≠ .error (.schema (.cyclicMapping walk)) ∧
        ∀ (k : Compiler) (inherit : Bool),
          k.compile s i inherit ≠ .error (.schema (.cyclicMapping walk))) ∧
      (∀ e, s.leafVariants i = .error e →
        ((s.component i).isUnion = false ∧ e = .notUnion (s.name i) "leaf flattening") ∨
          ∃ v, s.Reaches i v ∧ s.Hollow v ∧ e = .schema (.emptyMapping (s.name v))) ∧
      ((∃ u, s.leafVariants i = .error (.schema (.emptyMapping u))) ↔
        ∃ v, s.Reaches i v ∧ s.Hollow v) := by
  obtain ⟨s, hs, hkeys, hn, ha⟩ := exists_acyclic_of_load h
  refine ⟨s, hs, hkeys, fun i => ⟨fun walk => ⟨?_, ?_⟩, fun e => Schema.leafVariants_fault hn ha,
    Schema.exists_emptyMapping_iff hn ha⟩⟩
  · intro hleaves
    rcases Schema.leafVariants_fault hn ha hleaves with ⟨_, hplain⟩ | ⟨_, _, _, hempty⟩
    · cases hplain
    · cases hempty
  · intro k inherit hcompile
    obtain ⟨hi, f, hf, hfault⟩ := Compiler.unfold_eq_error_of_compile hcompile trivial
    cases hfault
    obtain ⟨_, _, _, hempty⟩ :=
      Schema.exists_hollow_of_walkFault hn ha (Schema.walkFault_of_unfold hi hf)
    cases hempty

end Document

/-! ## A union that lists nothing, listed twice -/

namespace Shell

/-- A union with the given mapping. -/
def unionOf (mapping : List (String × Json)) : Json :=
  .obj [("discriminator", .obj [("field", .str "type"), ("mapping", .obj mapping)])]

def document : Json := .obj [("components", .obj [
  ("Outer", unionOf [("A", .str "Inner"), ("B", .str "Inner")]), ("Inner", unionOf [])])]

def catalog : Catalog := [
  ("Outer", {
    name := "Outer"
    fields := []
    discriminator := some ⟨.str "type", [("A", "Inner"), ("B", "Inner")]⟩
    distinct := List.nodup_nil }),
  ("Inner", {
    name := "Inner"
    fields := []
    discriminator := some ⟨.str "type", []⟩
    distinct := List.nodup_nil })]

def schema : Schema := .tied catalog

theorem load_document : Document.load document = .ok catalog := rfl

theorem ofCatalog_catalog : Schema.ofCatalog catalog = .ok schema := rfl

end Shell

/-- The outer union has no leaves, because the inner one lists nothing. -/
theorem Shell.outer_hollow : ∃ u,
    schema.leafVariants (0 : Fin 2) = .error (.schema (.emptyMapping u)) := by
  obtain ⟨s, hs, _, hwalks⟩ := Document.loaded_never_cyclic load_document
  rw [ofCatalog_catalog] at hs
  cases hs
  obtain ⟨_, _, hiff⟩ := hwalks (0 : Fin 2)
  have hlists : schema.Lists (0 : Fin 2) (1 : Fin 2) := List.mem_cons_self
  exact hiff.mpr ⟨(1 : Fin 2), .single hlists, rfl, rfl⟩

end ClassModel
