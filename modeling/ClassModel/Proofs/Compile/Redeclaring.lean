import ClassModel.Proofs.Compile.Overriding

/-!
# Which fields a nested union declares again

A union does not list a common field that the union right above it has already. What the union
above has are all its common fields, its own discriminator left out, whether it lists them or not.
So a name that a union further up lists comes down the unions below it for as long as it is common
there, and it is common everywhere below but at the unions it is the discriminator of
(`Lineage.listed_next_iff`). Right below such a union it is new again: a nested union lists a name
once more exactly if the union right above it is told apart by that name and the nested union itself
is not (`Lineage.relisted_iff`). Otherwise each name is listed once on the way from the root to a
leaf (`listed_once_iff`).
-/

set_option autoImplicit false

namespace ClassModel
namespace Compiler

/-- No two of the unions list fields of one name. -/
def ListedOnce (above : List Descriptor) : Prop :=
  above.Pairwise fun u v => ∀ g ∈ u.ownFields, ∀ g' ∈ v.ownFields, g'.name ≠ g.name

/-- Where a union is told apart by a name that a union above it lists, the next union below is told
apart by the same name. -/
def DiscriminatorsStay (above : List Descriptor) : Prop :=
  ∀ pre p v post, above = pre ++ p :: v :: post → ∀ u ∈ pre, ∀ g ∈ u.ownFields,
    p.discriminator.text? = some g.name → v.discriminator.text? = some g.name

variable {k : Compiler} {s : Schema} {i l : s.Id} {d leaf p u v : Descriptor}
  {inner outer : List ResolvedField} {variants : List (Unfolding s.Id)}
  {pre post above : List Descriptor} {g : ResolvedField} {n : String}

namespace Lineage

/-- The unions from any one of them on have a lineage, and the first of them no other leaves. -/
theorem drop (h : Lineage k s true l inner outer variants (pre ++ u :: post)) :
    ∃ outer' variants', Unfolding.leavesAll variants' ⊆ Unfolding.leavesAll variants ∧
      Lineage k s true l inner outer' variants' (u :: post) := by
  induction pre generalizing outer variants with
  | nil => exact ⟨outer, variants, List.Subset.refl _, h⟩
  | cons w pre ih =>
    rw [List.cons_append] at h
    generalize hrest : pre ++ u :: post = rest at h
    cases h with
    | last => simp at hrest
    | nested hv _ _ hnested =>
      subst hrest
      obtain ⟨outer', variants', hsub, hline⟩ := ih hnested
      exact ⟨outer', variants', fun j hj => Unfolding.leaves_subset hv (hsub hj), hline⟩

/-- The first union lists those of the fields it shares whose names are not shared above. -/
theorem exists_lifted (h : Lineage k s true l inner outer variants (u :: post)) :
    ∃ full, k.liftedFields s true u.discriminator variants = .ok full ∧
      u.ownFields = full.filter (fun f => !(outer.map (·.name)).contains f.name) := by
  cases h with
  | last _ hl hown => exact ⟨_, hl, hown⟩
  | nested _ hl hown _ => exact ⟨_, hl, hown⟩

/-- What the first union lists, all its leaves show. -/
theorem shown_of_listed (hn : Function.Injective s.name)
    (h : Lineage k s true l inner outer variants (u :: post)) (hg : g ∈ u.ownFields) :
    ∀ j ∈ Unfolding.leavesAll variants, k.Shows (s.component j).fields g.name := by
  obtain ⟨full, hl, hown⟩ := h.exists_lifted
  rw [hown] at hg
  exact ((exists_lifted_iff hn hl h.mem_leaves).mp ⟨g, List.mem_of_mem_filter hg, rfl⟩).1

/-- No union on the way lists its own discriminator. -/
theorem ne_discriminator_of_listed (hn : Function.Injective s.name)
    (h : Lineage k s true l inner outer variants above) (hu : u ∈ above) (hg : g ∈ u.ownFields) :
    u.discriminator.text? ≠ some g.name := by
  obtain ⟨us, full, hmem, hl, hin⟩ := h.exists_shared hu
  exact ((exists_lifted_iff hn hl hmem).mp ⟨g, hin g hg, rfl⟩).2

/-- A union lists a name that all leaves show exactly if it is common there and not above. -/
theorem listed_iff (hn : Function.Injective s.name)
    (h : Lineage k s true l inner outer variants (u :: post))
    (hall : ∀ j ∈ Unfolding.leavesAll variants, k.Shows (s.component j).fields n) :
    (∃ g ∈ u.ownFields, g.name = n) ↔
      u.discriminator.text? ≠ some n ∧ ¬ ∃ g ∈ outer, g.name = n := by
  obtain ⟨full, hl, hown⟩ := h.exists_lifted
  have hlifted := exists_lifted_iff hn hl h.mem_leaves (n := n)
  rw [hown]
  constructor
  · rintro ⟨g, hg, rfl⟩
    obtain ⟨hg, hnew⟩ := List.mem_filter.mp hg
    refine ⟨(hlifted.mp ⟨g, hg, rfl⟩).2, fun ho => ?_⟩
    have hcontained : g.name ∈ outer.map (·.name) := List.mem_map.mpr ho
    simp [hcontained] at hnew
  · rintro ⟨hw, hnew⟩
    obtain ⟨g, hg, rfl⟩ := hlifted.mpr ⟨hall, hw⟩
    refine ⟨g, List.mem_filter.mpr ⟨hg, ?_⟩, rfl⟩
    have hcontained : g.name ∉ outer.map (·.name) := mt List.mem_map.mp hnew
    simp [hcontained]

/-- **Of a name that all leaves show**, the union right below the first one lists it exactly if the
first one leaves it out as its discriminator, and it does not itself. -/
theorem listed_next_iff (hn : Function.Injective s.name)
    (h : Lineage k s true l inner outer variants (p :: v :: post))
    (hall : ∀ j ∈ Unfolding.leavesAll variants, k.Shows (s.component j).fields n) :
    (∃ g ∈ v.ownFields, g.name = n) ↔
      p.discriminator.text? = some n ∧ v.discriminator.text? ≠ some n := by
  have hmem := h.mem_leaves
  cases h with
  | nested hv hl _ hrest =>
    -- What the second union looks for above it are all fields that the first one shares.
    rw [hrest.listed_iff hn fun j hj => hall j (Unfolding.leaves_subset hv hj),
      exists_lifted_iff hn hl hmem, not_and_not_right, and_comm]
    exact and_congr_left fun _ => ⟨fun hp => hp hall, fun hp _ => hp⟩

/-- **A union lists a name again** that a union further up lists exactly if the union right above
it is told apart by the name, and it is not itself. -/
theorem relisted_iff (hn : Function.Injective s.name)
    (h : Lineage k s true l inner outer variants (pre ++ p :: v :: post)) (hu : u ∈ pre ++ [p])
    (hg : g ∈ u.ownFields) : (∃ g' ∈ v.ownFields, g'.name = g.name) ↔
      p.discriminator.text? = some g.name ∧ v.discriminator.text? ≠ some g.name := by
  -- The leaves of `u` show the name, and so do those of `p`, which are fewer.
  obtain ⟨before, between, hsplit⟩ := List.append_of_mem hu
  have habove : pre ++ p :: v :: post = before ++ u :: (between ++ v :: post) := by
    simpa using congrArg (· ++ v :: post) hsplit
  rw [habove] at h
  obtain ⟨_, variants', _, hline⟩ := h.drop
  have hall := hline.shown_of_listed hn hg
  have hlast : (u :: between).getLast? = some p := by
    simpa using (congrArg List.getLast? hsplit).symm
  obtain ⟨way, hway⟩ := List.getLast?_eq_some_iff.mp hlast
  have hrest : u :: (between ++ v :: post) = way ++ p :: v :: post := by
    simpa using congrArg (· ++ v :: post) hway
  rw [hrest] at hline
  obtain ⟨_, variants'', hsub, hline⟩ := hline.drop
  exact hline.listed_next_iff hn fun j hj => hall j (hsub hj)

end Lineage

/-- Nothing is listed twice if no union lists again what one of those above it lists. -/
theorem listedOnce_iff_splits : ListedOnce above ↔ ∀ pre p v post, above = pre ++ p :: v :: post →
    ∀ u ∈ pre ++ [p], ∀ g ∈ u.ownFields, ¬ ∃ g' ∈ v.ownFields, g'.name = g.name := by
  constructor
  · rintro h pre p v post rfl u hu g hg ⟨g', hg', hname⟩
    have hsplit : pre ++ p :: v :: post = (pre ++ [p]) ++ v :: post := by simp
    rw [ListedOnce, hsplit] at h
    exact (List.pairwise_append.mp h).2.2 u hu v List.mem_cons_self g hg g' hg' hname
  · intro h
    rw [ListedOnce, List.pairwise_iff_getElem]
    intro m n hm hn hlt g hg g' hg' hname
    -- The union at `n` is not the first one, so one is right above it.
    obtain ⟨n, rfl⟩ := Nat.exists_eq_succ_of_ne_zero (Nat.ne_zero_of_lt hlt)
    have hlt' : n < above.length := Nat.lt_of_succ_lt hn
    refine h (above.take n) above[n] above[n + 1] (above.drop (n + 2)) ?_ above[m] ?_ g hg
      ⟨g', hg', hname⟩
    · rw [List.getElem_cons_drop, List.getElem_cons_drop, List.take_append_drop]
    · rcases Nat.lt_succ_iff_lt_or_eq.mp hlt with hlt | rfl
      · exact List.mem_append_left _ (List.mem_take_iff_getElem.mpr ⟨m, by omega, rfl⟩)
      · exact List.mem_append_right _ (List.mem_singleton_self _)

namespace Lineage

/-- Names are listed once on a lineage exactly if the discriminators among them stay. -/
theorem listedOnce_iff (hn : Function.Injective s.name)
    (h : Lineage k s true l inner outer variants above) :
    ListedOnce above ↔ DiscriminatorsStay above := by
  rw [listedOnce_iff_splits, DiscriminatorsStay]
  constructor
  · intro hnone pre p v post habove u hu g hg hp
    have hu' : u ∈ pre ++ [p] := List.mem_append_left _ hu
    rw [habove] at h
    by_contra hv
    exact hnone pre p v post habove u hu' g hg ((h.relisted_iff hn hu' hg).mpr ⟨hp, hv⟩)
  · intro hstay pre p v post habove u hu g hg hagain
    have hline := habove ▸ h
    obtain ⟨hp, hv⟩ := (hline.relisted_iff hn hu hg).mp hagain
    rcases List.mem_append.mp hu with hu | hu
    · exact hv (hstay pre p v post habove u hu g hg hp)
    · -- What `p` itself lists is not its discriminator.
      rw [List.mem_singleton] at hu
      subst hu
      exact h.ne_discriminator_of_listed hn (by simp [habove]) hg hp

end Lineage

/-- **On the way from the root to a leaf** a union lists a name again that a union above it lists
exactly if the union right above it is told apart by the name and it is not itself. So each name is
listed once on the way exactly if the discriminators among them stay. -/
theorem listed_once_iff (hn : Function.Injective s.name) (h : k.compile s i true = .ok d)
    (hs : d.Site above leaf) (hl : leaf.isUnion = false) :
    (∀ pre p v post, above = pre ++ p :: v :: post → ∀ u ∈ pre ++ [p], ∀ g ∈ u.ownFields,
      ((∃ g' ∈ v.ownFields, g'.name = g.name) ↔
        p.discriminator.text? = some g.name ∧ v.discriminator.text? ≠ some g.name)) ∧
    (ListedOnce above ↔ DiscriminatorsStay above) := by
  rcases leaf_cases h hs hl with ⟨rfl, _⟩ | ⟨l, variants, inner, _, _, _, hline, _, _⟩
  · -- A plain component has no union above it.
    have hnone : ∀ (pre : List Descriptor) p v post, [] ≠ pre ++ p :: v :: post := by simp
    exact ⟨fun pre p v post habove => absurd habove (hnone pre p v post),
      iff_of_true List.Pairwise.nil fun pre p v post habove => absurd habove (hnone pre p v post)⟩
  · refine ⟨?_, hline.listedOnce_iff hn⟩
    rintro pre p v post rfl u hu g hg
    exact hline.relisted_iff hn hu hg

end Compiler

/-! ## An instance

A payment may be a transfer, which may be a wire, which may go by SWIFT. The kind of the transfer is
a field of its only leaf. -/

namespace Wires

/-- The payments, the transfers, the wires and the SWIFT payment. -/
def schema : Schema where
  size := 4
  key := fun i => ["Payment", "Transfer", "Wire", "Swift"][i]
  component := fun i => [
    { name := "Payment", fields := [], discriminator := some ⟨.str "type", [("TRANSFER", 1)]⟩,
      distinct := List.nodup_nil },
    { name := "Transfer", fields := [], discriminator := some ⟨.str "kind", [("WIRE", 2)]⟩,
      distinct := List.nodup_nil },
    { name := "Wire", fields := [], discriminator := some ⟨.str "network", [("SWIFT", 3)]⟩,
      distinct := List.nodup_nil },
    { name := "Swift", fields := [
      { name := "kind", type := { qualifier := .str "kotlin.String" }, required := true },
      { name := "network", type := { qualifier := .str "kotlin.String" }, literals := ["SWIFT"],
        required := true }] }][i]

/-- The kind as a union lists it. -/
def kindField : ResolvedField :=
  { name := "kind", type := "String", required := true, isAbstract := true }

/-- The network as a union lists it. -/
def networkField : ResolvedField :=
  { name := "network", type := "Network", enum := some ⟨"Network", ["SWIFT"]⟩, required := true,
    isAbstract := true }

/-- The class of the SWIFT payment. -/
def swiftClass : Descriptor :=
  .single (.named "Swift") [{ kindField with isAbstract := false, isOverride := true }]

/-- The class of the wires, which lists the kind again. -/
def wireClass : Descriptor :=
  .union (.named "Wire") (.str "network") [kindField] [("Swift", "SWIFT")] [swiftClass]

/-- The class of the transfers. -/
def transferClass : Descriptor :=
  .union (.named "Transfer") (.str "kind") [] [("Swift", "SWIFT")] [wireClass]

/-- The class of the payments. -/
def paymentClass : Descriptor :=
  .union (.named "Payment") (.str "type") [kindField, networkField] [("Swift", "SWIFT")]
    [transferClass]

theorem name_injective : Function.Injective schema.name := by
  decide

theorem compile_schema : ({} : Compiler).compile schema (0 : Fin 4) true = .ok paymentClass :=
  rfl

theorem site_swiftClass :
    paymentClass.Site [paymentClass, transferClass, wireClass] swiftClass :=
  .under (List.mem_singleton_self _)
    (.under (List.mem_singleton_self _) (.under (List.mem_singleton_self _) (.root _)))

end Wires

namespace Compiler

open Wires

/-- The wires list the kind again, because the transfers are told apart by it. -/
theorem wires_list_kind_again :
    (∃ g ∈ wireClass.ownFields, g.name = kindField.name) ∧
      (ListedOnce [paymentClass, transferClass, wireClass] ↔
        DiscriminatorsStay [paymentClass, transferClass, wireClass]) ∧
      ¬ DiscriminatorsStay [paymentClass, transferClass, wireClass] := by
  obtain ⟨hrelisted, honce⟩ := listed_once_iff name_injective compile_schema site_swiftClass rfl
  have hkind : kindField ∈ paymentClass.ownFields := List.mem_cons_self
  have hagain := hrelisted [paymentClass] transferClass wireClass [] rfl paymentClass
    List.mem_cons_self kindField hkind
  refine ⟨hagain.mpr ⟨rfl, by decide⟩, honce, fun hstay => ?_⟩
  have hwire := hstay [paymentClass] transferClass wireClass [] rfl paymentClass
    List.mem_cons_self kindField hkind rfl
  exact absurd hwire (by decide)

/-- **A nested union may list again what a union above it lists**: the payments list the kind, the
transfers are told apart by it, and the wires list it again. -/
theorem not_all_listed_once :
    ¬ ∀ (k : Compiler) (s : Schema) (i : s.Id) (d leaf : Descriptor) (above : List Descriptor),
      Function.Injective s.name → k.compile s i true = .ok d → d.Site above leaf →
      leaf.isUnion = false → ListedOnce above := by
  intro hall
  have honce := hall {} schema (0 : Fin 4) paymentClass swiftClass _ name_injective compile_schema
    site_swiftClass rfl
  have hpair := (List.pairwise_cons.mp honce).1 wireClass (by simp)
  exact hpair kindField List.mem_cons_self kindField (List.mem_singleton_self _) rfl

end Compiler
end ClassModel
