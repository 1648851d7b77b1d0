import ClassModel.Proofs.Compile.ClassTree
import ClassModel.Proofs.Compile.CommonFields
import ClassModel.Proofs.Compile.Settles
import ClassModel.Proofs.Compile.Walks

/-!
# Where a walk stops

Unfolding a union stops at the first of its walks that breaks a rule. The walk has come to a union
that lists nothing, or the union at its end lists one whose name stands on it already; the fault
spells just that (`walkFault_of_unfold`).

Compiling checks walks nowhere else. Whatever the settings of the compiler are, a fault about walks
is the one that unfolding the component has (`unfold_eq_error_of_compile`).
-/

set_option autoImplicit false

namespace ClassModel
namespace Schema

variable {s : Schema} {root i j : s.Id} {ids : List s.Id} {depth : Nat} {f : SchemaFault}

/-- `s.Walk root ids i`: mappings lead from `root` along `ids` to `i`, and no name stands on the way
twice. -/
structure Walk (s : Schema) (root : s.Id) (ids : List s.Id) (i : s.Id) : Prop where
  start : (ids ++ [i]).head? = some root
  chain : (ids ++ [i]).IsChain s.Lists
  distinct : ((ids ++ [i]).map s.name).Nodup

theorem Walk.nil : s.Walk i [] i where
  start := rfl
  chain := List.isChain_singleton i
  distinct := List.nodup_singleton _

theorem Walk.next (h : s.Walk root ids i) (hl : s.Lists i j)
    (hj : s.name j ∉ (ids ++ [i]).map s.name) : s.Walk root (ids ++ [i]) j where
  start := by
    rw [List.head?_append_of_ne_nil _ (by simp)]
    exact h.start
  chain := isChain_snoc h.chain hl
  distinct := by
    rw [List.map_append, List.map_singleton]
    exact nodup_snoc h.distinct hj

theorem Walk.reaches (h : s.Walk root ids i) : s.Reaches root i := by
  cases ids with
  | nil =>
    cases h.start
    exact .refl
  | cons first rest =>
    cases h.start
    exact (transGen_of_isChain h.chain List.mem_cons_self).to_reflTransGen

/-- What stops a walk from `root`, in the words of its fault. -/
inductive WalkFault (s : Schema) (root : s.Id) : SchemaFault → Prop
  | empty {ids : List s.Id} {u : s.Id} : s.Walk root ids u → (s.component u).isUnion = true →
      (s.component u).targets = [] → WalkFault s root (.emptyMapping (s.name u))
  | cyclic {ids : List s.Id} {u j : s.Id} : s.Walk root ids u → s.Lists u j →
      (s.component j).isUnion = true → s.name j ∈ (ids ++ [u]).map s.name →
      WalkFault s root (.cyclicMapping ((ids ++ [u]).map s.name ++ [s.name j]))

theorem walkFault_of_unfoldFrom (hw : s.Walk root ids i) (hi : (s.component i).isUnion = true)
    (hd : s.size + 1 ≤ depth + (ids ++ [i]).length)
    (h : s.unfoldFrom depth ((ids ++ [i]).map s.name) i = .error f) : s.WalkFault root f := by
  induction depth generalizing ids i with
  | zero =>
    -- A walk with distinct names is no longer than the schema, so depth does not run out.
    have hnames : ∀ n ∈ (ids ++ [i]).map s.name, ∃ j, s.name j = n := by
      intro n hn
      obtain ⟨j, _, hj⟩ := List.mem_map.mp hn
      exact ⟨j, hj⟩
    have hle := length_le_size hw.distinct hnames
    rw [List.length_map] at hle
    omega
  | succ depth ih =>
    rw [unfoldFrom_succ] at h
    split at h
    · next hempty =>
      cases h
      exact .empty hw hi hempty
    · obtain ⟨j, hj, hstop⟩ := exists_item_of_traverse_error h
      rw [branch] at hstop
      split at hstop
      · next hu =>
        split at hstop
        · next hmem =>
          cases hstop
          exact .cyclic hw hj hu (List.contains_iff_mem.mp hmem)
        · next hmem =>
          rw [List.contains_iff_mem] at hmem
          split at hstop
          · next f' hbelow =>
            cases hstop
            have hnames : (ids ++ [i]).map s.name ++ [s.name j] =
                ((ids ++ [i]) ++ [j]).map s.name := by simp
            rw [hnames] at hbelow
            refine ih (hw.next hj hmem) hu ?_ hbelow
            rw [List.length_append, List.length_singleton]
            omega
          · cases hstop
      · cases hstop

/-- **A union that does not unfold has a walk that stops**, and the fault says where. -/
theorem walkFault_of_unfold (hi : (s.component i).isUnion = true) (h : s.unfold i = .error f) :
    s.WalkFault i f :=
  walkFault_of_unfoldFrom .nil hi (by simp) h

/-- The leaves of a union are missing only if it does not unfold. -/
theorem leafVariants_eq_error_iff {e : CompileFault} :
    s.leafVariants i = .error e ↔
      ((s.component i).isUnion = false ∧ e = .notUnion (s.name i) "leaf flattening") ∨
      ((s.component i).isUnion = true ∧ ∃ f, s.unfold i = .error f ∧ e = .schema f) := by
  rw [leafVariants, requireUnion, Component.isUnion]
  cases (s.component i).discriminator with
  | none => simp [eq_comm]
  | some d => cases s.unfold i <;> simp [eq_comm]

end Schema

/-! ## The compiler -/

/-- Is the fault about a walk? -/
def CompileFault.IsWalk : CompileFault → Prop
  | .schema f => f.IsWalk
  | _ => False

namespace Compiler

variable {k : Compiler} {s : Schema} {inherit : Bool} {i : s.Id} {w : Json}
  {common : List ResolvedField} {variants : List (Unfolding s.Id)} {parent : List String}
  {e : CompileFault}

theorem not_isWalk_of_headOf {ι : Type} {c : Component ι} {imports : List Json}
    (h : headOf c imports = .error e) : ¬ e.IsWalk := by
  rw [headOf] at h
  split at h
  · cases h
    exact fun hw => hw
  · cases h

theorem not_isWalk_of_singleWith {ι : Type} {c : Component ι} {fields : List ResolvedField}
    (h : k.singleWith c fields = .error e) : ¬ e.IsWalk := by
  rw [singleWith] at h
  split at h
  · cases h
    exact fun hw => hw
  · split at h
    · next e' hhead =>
      cases h
      exact not_isWalk_of_headOf hhead
    · cases h

theorem not_isWalk_of_compileSingle {ι : Type} {c : Component ι}
    (h : k.compileSingle c = .error e) : ¬ e.IsWalk := by
  rw [compileSingle] at h
  split at h
  · cases h
    exact fun hw => hw
  · exact not_isWalk_of_singleWith h

theorem not_isWalk_of_liftedFields (h : k.liftedFields s inherit w variants = .error e) :
    ¬ e.IsWalk := by
  rw [liftedFields, commonFieldsOf] at h
  split at h
  · split at h
    · cases h
      exact fun hw => hw
    · split at h
      · next f hf =>
        cases h
        obtain ⟨first, second, hconflict, _⟩ := conflict_of_gatherCommon hf
        rw [hconflict]
        exact fun hw => hw
      · cases h
  · cases h

theorem not_isWalk_of_unionOf {ι : Type} {c : Component ι} {parts : List Part}
    (h : unionOf c w parent common parts = .error e) : ¬ e.IsWalk := by
  rw [unionOf] at h
  split at h
  · next e' hhead =>
    cases h
    exact not_isWalk_of_headOf hhead
  · cases h

theorem not_isWalk_of_leaf (h : k.compileVariant s inherit w common (.leaf i) = .error e) :
    ¬ e.IsWalk := by
  rw [compileVariant, compileLeaf] at h
  split at h
  · cases h
    exact fun hw => hw
  · split at h
    · next e' hleaf =>
      cases h
      split at hleaf
      · cases hleaf
        exact fun hw => hw
      · exact not_isWalk_of_singleWith hleaf
    · split at h
      · next e' htag =>
        cases h
        rcases ((s.component i).tag_settles w).fault_of_error htag with ⟨f, rfl, hf⟩ | ⟨rfl, _⟩
        · exact hf
        · exact fun hw => hw
      · cases h

/-- **A tree is compiled without a check of its walks.** -/
theorem not_isWalk_of_compileVariant (v : Unfolding s.Id) :
    ∀ w common e, k.compileVariant s inherit w common v = .error e → ¬ e.IsWalk := by
  induction v using Unfolding.treeInduction with
  | leaf i =>
    intro w common e h
    exact not_isWalk_of_leaf h
  | union i variants ih =>
    intro w common e h
    -- The four steps of a union one after the other; only its variants are trees again.
    rw [compileVariant] at h
    split at h
    · cases h
      exact fun hw => hw
    · dsimp only at h
      split at h
      · next e' hlift =>
        cases h
        exact not_isWalk_of_liftedFields hlift
      · split at h
        · next e' hparts =>
          cases h
          rw [compileVariants_eq_traverse] at hparts
          obtain ⟨v, hv, hfault⟩ := exists_item_of_traverse_error hparts
          exact ih v hv _ _ _ hfault
        · split at h
          · next e' hunion =>
            cases h
            exact not_isWalk_of_unionOf hunion
          · cases h

/-- **A compilation that stops at a walk has not unfolded its component.** -/
theorem unfold_eq_error_of_compile (h : k.compile s i inherit = .error e) (he : e.IsWalk) :
    (s.component i).isUnion = true ∧ ∃ f, s.unfold i = .error f ∧ e = .schema f := by
  rw [compile] at h
  split at h
  · next hi =>
    refine ⟨hi, ?_⟩
    rw [compileUnion] at h
    -- Of the steps after unfolding none stops at a walk.
    split at h
    · next e' hrequire =>
      cases h
      rw [Schema.requireUnion] at hrequire
      split at hrequire
      · cases hrequire
      · cases hrequire
        exact absurd he fun hw => hw
    · split at h
      · next f hf =>
        cases h
        exact ⟨f, hf, rfl⟩
      · split at h
        · next e' hlift =>
          cases h
          exact absurd he (not_isWalk_of_liftedFields hlift)
        · split at h
          · next e' hparts =>
            cases h
            rw [compileVariants_eq_traverse] at hparts
            obtain ⟨v, hv, hfault⟩ := exists_item_of_traverse_error hparts
            exact absurd he (not_isWalk_of_compileVariant v _ _ _ hfault)
          · exact absurd he (not_isWalk_of_unionOf h)
  · exact absurd he (not_isWalk_of_compileSingle h)

end Compiler
end ClassModel
