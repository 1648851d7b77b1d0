import ClassModel.Proofs.Compile.Inheritance
import ClassModel.Proofs.Compile.Settles
import ClassModel.Proofs.Compile.Suits

/-!
# Which components compile

A plain component always compiles. A union compiles if it unfolds and every union that it reaches
is `Coherent`: the plain variants that it lists are told apart by its discriminator and, with
inheritance, its leaves agree on their common fields. The steps of the compiler settle along the
tree of a union (`compileVariant_settles`), so the faults of a compilation are known along with its
success.

Unfolding the root is the only place where a walk is checked: a union below it is compiled from the
tree that it unfolds to by itself (`compileVariant_union_eq`).

The bound that an interpreter sets to the depth of calls is not modelled. Unions below each other
and types inside each other compile here however deep they go.
-/

set_option autoImplicit false

namespace ClassModel
namespace Compiler

variable {k : Compiler} {s : Schema} {inherit : Bool} {root i l : s.Id} {w : Json}
  {common : List ResolvedField} {variants : List (Unfolding s.Id)} {parent : List String}

/-! ## A union below a union -/

/-- The class of a union that unfolds, step by step. -/
theorem compileUnion_eq (hi : (s.component i).isUnion = true) (hv : s.unfold i = .ok variants) :
    k.compileUnion s inherit i parent =
      match k.liftedFields s inherit (s.component i).tagField variants with
      | .error e => .error e
      | .ok lifted =>
        match traverse (k.compileVariant s inherit (s.component i).tagField lifted) variants with
        | .error e => .error e
        | .ok parts => unionOf (s.component i) (s.component i).tagField parent lifted parts := by
  rw [compileUnion, Schema.requireUnion]
  cases hc : (s.component i).discriminator with
  | none => simp [Component.isUnion, hc] at hi
  | some disc =>
    have hw : disc.field = (s.component i).tagField := by simp [Component.tagField, hc]
    cases hl : k.liftedFields s inherit (s.component i).tagField variants with
    | error e => simp only [hv, hw, hl]
    | ok lifted =>
      cases ht : traverse (k.compileVariant s inherit (s.component i).tagField lifted) variants with
      | error e => simp only [hv, hw, hl, compileVariants_eq_traverse, ht]
      | ok parts => simp only [hv, hw, hl, compileVariants_eq_traverse, ht]

/-- What a union brings to the union that lists it: its own imports, and what its class has. -/
def nestedUnion (k : Compiler) (s : Schema) (inherit : Bool) (i : s.Id) (parent : List String) :
    Except CompileFault Part :=
  match k.componentImports (s.component i) with
  | .error m => .error (.misfit m)
  | .ok imports =>
    match k.compileUnion s inherit i parent with
    | .error e => .error e
    | .ok d => .ok ⟨imports ++ d.head.imports, d.tags, d⟩

/-- **A union below a union is compiled as on its own**: the tree that it has there is the one that
it unfolds to. -/
theorem compileVariant_union_eq (hi : (s.component i).isUnion = true)
    (hv : s.unfold i = .ok variants) :
    k.compileVariant s inherit w common (.union i variants) =
      k.nestedUnion s inherit i (common.map (·.name)) := by
  have hw : ((s.component i).discriminator.map (·.field)).getD .null
      = (s.component i).tagField := rfl
  rw [nestedUnion, compileUnion_eq hi hv]
  simp only [compileVariant, compileVariants_eq_traverse, hw]
  cases k.componentImports (s.component i) with
  | error m => rfl
  | ok imports =>
    dsimp only
    cases k.liftedFields s inherit (s.component i).tagField variants with
    | error e => rfl
    | ok lifted =>
      dsimp only
      cases traverse (k.compileVariant s inherit (s.component i).tagField lifted) variants with
      | error e => rfl
      | ok parts => rfl

/-! ## What decides about a union -/

/-- The common fields of the leaves of a union can be taken: no two of them clash. -/
def LeavesAgree (k : Compiler) (s : Schema) (i : s.Id) : Prop :=
  ∃ leaves common, s.leafVariants i = .ok leaves ∧
    k.commonFieldsOf (s.component i).tagField (leaves.map s.component) = .ok common

/-- The rules for one union: each plain variant that it lists declares its discriminator with one
literal and, with inheritance, its leaves agree on their common fields. -/
structure Coherent (k : Compiler) (s : Schema) (inherit : Bool) (i : s.Id) : Prop where
  tagged : ∀ l, s.Lists i l → (s.component l).isUnion = false →
    (s.component l).TaggedBy (s.component i).tagField
  agrees : inherit = true → k.LeavesAgree s i

/-- Every union that a component reaches is coherent. -/
def AllCoherent (k : Compiler) (s : Schema) (inherit : Bool) (i : s.Id) : Prop :=
  ∀ v, s.Reaches i v → (s.component v).isUnion = true → k.Coherent s inherit v

/-- The faults of a union whose walks have been checked: rules that are not about walks, and a
discriminator field that cannot be looked up in a variant. -/
inductive LateFault (s : Schema) (i : s.Id) : CompileFault → Prop
  | schema {f : SchemaFault} : ¬ f.IsWalk → LateFault s i (.schema f)
  | key {v l : s.Id} : s.Reaches i v → s.Lists v l → (s.component l).isUnion = false →
      (s.component v).tagField.isKey = false → LateFault s i (.misfit .key)

/-- The common fields of a union: there if its leaves agree on them. -/
theorem liftedFields_settles (hk : k.Suits s) (hi : (s.component i).isUnion = true)
    (hv : s.unfold i = .ok variants) :
    Settles (k.liftedFields s inherit (s.component i).tagField variants)
      (inherit = true → k.LeavesAgree s i) (LateFault s root) := by
  cases inherit with
  | false => exact .ok (fun h => by cases h) liftedFields_false
  | true =>
    have hleaves : s.leafVariants i = .ok (s.distinctLeaves variants) :=
      Schema.leafVariants_eq_ok_iff.mpr ⟨hi, variants, hv, rfl⟩
    rcases liftedFields_ok_or_conflict fun l _ => hk.exists_resolveFields l
        (s.component i).tagField with ⟨full, hfull⟩ | ⟨e, ⟨first, second, rfl, _⟩, hstop⟩
    · exact .ok (fun _ => ⟨_, full, hleaves, hfull⟩) hfull
    · refine .error ?_ hstop (.schema fun h => h)
      intro hagree
      obtain ⟨leaves, full, hl, hfull⟩ := hagree rfl
      rw [hleaves] at hl
      cases hl
      have hok : k.liftedFields s true (s.component i).tagField variants = .ok full := hfull
      rw [hstop] at hok
      cases hok

/-- A variant is accepted below the discriminator `w`: it has a tag if it is plain, and every union
that it reaches is coherent. -/
def Accepted (k : Compiler) (s : Schema) (inherit : Bool) (w : Json) (j : s.Id) : Prop :=
  ((s.component j).isUnion = false → (s.component j).TaggedBy w) ∧ k.AllCoherent s inherit j

/-- All unions that a union reaches are coherent if its leaves agree and its variants are
accepted. -/
theorem allCoherent_iff_accepted (hi : (s.component i).isUnion = true) :
    k.AllCoherent s inherit i ↔ (inherit = true → k.LeavesAgree s i) ∧
      ∀ l, s.Lists i l → k.Accepted s inherit (s.component i).tagField l := by
  constructor
  · intro h
    have hown := h i .refl hi
    refine ⟨hown.agrees, fun l hl => ⟨hown.tagged l hl, fun v hv => ?_⟩⟩
    exact h v (.head hl hv)
  · rintro ⟨hagree, hall⟩ v hv hu
    rcases Schema.reaches_iff.mp hv with rfl | ⟨l, hl, hv⟩
    · exact ⟨fun l hl => (hall l hl).1, hagree⟩
    · exact (hall l hl).2 v hv hu

/-! ## Down the tree of a union -/

/-- A plain variant: there if it has a tag. -/
theorem compileVariant_leaf_settles (hk : k.Suits s) :
    Settles (k.compileVariant s inherit w common (.leaf l)) ((s.component l).TaggedBy w)
      fun e => (∃ f, e = .schema f ∧ ¬ f.IsWalk) ∨ (e = .misfit .key ∧ w.isKey = false) := by
  obtain ⟨imports, hi⟩ := hk.exists_componentImports l
  obtain ⟨fields, hf⟩ := hk.exists_resolveFields l w
  obtain ⟨d, hd⟩ := hk.exists_singleWith l (overridesFirst common fields)
  rw [compileVariant, compileLeaf, hi, hf]
  dsimp only
  rw [hd]
  dsimp only
  cases (s.component l).tag_settles w with
  | ok hg hr =>
    rw [hr]
    exact .ok hg rfl
  | error hg hr he =>
    rw [hr]
    exact .error hg rfl he

/-- **One step**: a union settles if its variants do. -/
theorem compileUnion_settles (hk : k.Suits s) (hi : (s.component i).isUnion = true)
    (hv : s.unfold i = .ok variants)
    (hvs : ∀ v ∈ variants, ∀ j common, s.GrowsTo j v → s.Lists i j →
      Settles (k.compileVariant s inherit (s.component i).tagField common v)
        (k.Accepted s inherit (s.component i).tagField j) (LateFault s root)) :
    Settles (k.compileUnion s inherit i parent) (k.AllCoherent s inherit i) (LateFault s root) := by
  have haccepted : (∀ v ∈ variants, k.Accepted s inherit (s.component i).tagField v.root) ↔
      ∀ l, s.Lists i l → k.Accepted s inherit (s.component i).tagField l := by
    simp only [Schema.lists_iff_of_unfold hv]
    exact ⟨fun h l ⟨v, hm, hl⟩ => hl ▸ h v hm, fun h v hm => h _ ⟨v, hm, rfl⟩⟩
  refine Settles.congr ?_ (allCoherent_iff_accepted hi).symm
  rw [compileUnion_eq hi hv]
  have hlift : Settles (k.liftedFields s inherit (s.component i).tagField variants) _
      (LateFault s root) := liftedFields_settles hk hi hv
  cases hlift with
  | error hg hr he =>
    rw [hr]
    exact .error (fun h => hg h.1) rfl he
  | @ok lifted hagree hlifted =>
    rw [hlifted]
    dsimp only
    have hstep : ∀ v ∈ variants,
        Settles (k.compileVariant s inherit (s.component i).tagField lifted v)
          (k.Accepted s inherit (s.component i).tagField v.root) (LateFault s root) := by
      intro v hm
      obtain ⟨j, hj, hjv⟩ := exists_left_of_forall₂ (Schema.forall₂_growsTo hv) hm
      rw [hjv.root_eq]
      exact hvs v hm j _ hjv hj
    cases Settles.traverse hstep with
    | error hg hr he =>
      rw [hr]
      exact .error (fun h => hg (haccepted.mpr h.2)) rfl he
    | ok hall hparts =>
      rw [hparts]
      dsimp only
      -- Sorting the imports is all that is left, and they are texts.
      obtain ⟨d, hd⟩ := hk.exists_unionOf hv hparts
      exact .ok ⟨hagree, haccepted.mp hall⟩ hd

/-- **A variant settles**: it is there exactly if it is accepted. `root` is the union where the
compilation started. -/
theorem compileVariant_settles (hk : k.Suits s) (v : Unfolding s.Id) :
    ∀ u j common, s.GrowsTo j v → s.Reaches root u → s.Lists u j →
      Settles (k.compileVariant s inherit (s.component u).tagField common v)
        (k.Accepted s inherit (s.component u).tagField j) (LateFault s root) := by
  induction v using Unfolding.treeInduction with
  | leaf l =>
    intro u j common hgrow hu hl
    cases hgrow with
    | leaf hplain =>
      refine ((compileVariant_leaf_settles hk).mono ?_).congr ?_
      · rintro e (⟨f, rfl, hf⟩ | ⟨rfl, hw⟩)
        · exact .schema hf
        · exact .key hu hl hplain hw
      · constructor
        · intro htag
          refine ⟨fun _ => htag, fun v hv hunion => ?_⟩
          rw [hv.eq_of_plain hplain, hplain] at hunion
          cases hunion
        · intro haccepted
          exact haccepted.1 hplain
  | union i variants ih =>
    intro u j common hgrow hu hl
    cases hgrow with
    | union hi hv =>
      -- The tree below is that of the union on its own, so the step applies to it.
      rw [compileVariant_union_eq hi hv, nestedUnion]
      obtain ⟨imports, himports⟩ := hk.exists_componentImports i
      rw [himports]
      dsimp only
      have hunion : Settles (k.compileUnion s inherit i (common.map (·.name)))
          (k.AllCoherent s inherit i) (LateFault s root) :=
        compileUnion_settles hk hi hv fun v hm j common hgrow hj =>
          ih v hm i j common hgrow (hu.tail hl) hj
      -- A nested union needs no tag of its own.
      have hgood : k.Accepted s inherit (s.component u).tagField i ↔ k.AllCoherent s inherit i := by
        refine and_iff_right ?_
        intro hplain
        rw [hi] at hplain
        cases hplain
      refine Settles.congr ?_ hgood.symm
      cases hunion with
      | ok hg hr =>
        rw [hr]
        exact .ok hg rfl
      | error hg hr he =>
        rw [hr]
        exact .error hg rfl he

/-- A union that is reached from a union that unfolds settles. -/
theorem compileUnion_settles_of_reaches (hk : k.Suits s) (hr : s.Reaches root i)
    (hi : (s.component i).isUnion = true) (hv : s.unfold i = .ok variants) :
    Settles (k.compileUnion s inherit i parent) (k.AllCoherent s inherit i) (LateFault s root) :=
  compileUnion_settles hk hi hv fun v _ j common hgrow hl =>
    compileVariant_settles hk v i j common hgrow hr hl

/-! ## The outcome of a compilation -/

theorem compile_of_isUnion (hi : (s.component i).isUnion = true) :
    k.compile s i inherit = k.compileUnion s inherit i [] := by
  rw [compile, if_pos hi]

theorem exists_compile_of_plain (hk : k.Suits s) (hi : (s.component i).isUnion = false) :
    ∃ d, k.compile s i inherit = .ok d := by
  obtain ⟨d, hd⟩ := hk.exists_compileSingle i
  exact ⟨d, compile_eq_ok_iff.mpr (Or.inr ⟨hi, hd⟩)⟩

/-- A union that does not unfold stops with the fault of its unfolding. -/
theorem compileUnion_of_unfold_error {f : SchemaFault} (hi : (s.component i).isUnion = true)
    (hv : s.unfold i = .error f) : k.compileUnion s inherit i parent = .error (.schema f) := by
  rw [compileUnion, Schema.requireUnion]
  cases hc : (s.component i).discriminator with
  | none => simp [Component.isUnion, hc] at hi
  | some disc =>
    dsimp only
    rw [hv]

/-- A union compiles exactly if its leaves can be listed and every union that it reaches is
coherent. -/
theorem exists_compile_iff_of_isUnion (hk : k.Suits s) (hi : (s.component i).isUnion = true) :
    (∃ d, k.compile s i inherit = .ok d) ↔
      (∃ leaves, s.leafVariants i = .ok leaves) ∧ k.AllCoherent s inherit i := by
  rw [compile_of_isUnion hi]
  constructor
  · rintro ⟨d, hd⟩
    obtain ⟨_, variants, hv, _⟩ := compileUnion_eq_ok_iff.mp hd
    refine ⟨⟨_, Schema.leafVariants_eq_ok_iff.mpr ⟨hi, variants, hv, rfl⟩⟩, ?_⟩
    exact (compileUnion_settles_of_reaches hk .refl hi hv).exists_ok_iff.mp ⟨d, hd⟩
  · rintro ⟨⟨_, hl⟩, hgood⟩
    obtain ⟨_, variants, hv, _⟩ := Schema.leafVariants_eq_ok_iff.mp hl
    exact (compileUnion_settles_of_reaches hk .refl hi hv).exists_ok_iff.mpr hgood

/-- The faults of a compilation. -/
theorem fault_of_compile (hk : k.Suits s) {e : CompileFault}
    (h : k.compile s i inherit = .error e) :
    (∃ f, e = .schema f) ∨ LateFault s i e := by
  cases hi : (s.component i).isUnion with
  | false =>
    obtain ⟨d, hd⟩ := exists_compile_of_plain hk hi
    rw [hd] at h
    cases h
  | true =>
    rw [compile_of_isUnion hi] at h
    cases hv : s.unfold i with
    | error f =>
      rw [compileUnion_of_unfold_error hi hv] at h
      cases h
      exact Or.inl ⟨f, rfl⟩
    | ok variants =>
      exact Or.inr ((compileUnion_settles_of_reaches hk .refl hi hv).fault_of_error h)

/-- Where the leaves of the root can be listed, the unions that it reaches are compiled as on their
own, and their walks need no check. -/
theorem nested_of_leafVariants (hk : k.Suits s) {leaves : List s.Id}
    (hl : s.leafVariants root = .ok leaves) (hr : s.Reaches root i)
    (hi : (s.component i).isUnion = true) :
    ∃ variants, s.unfold i = .ok variants ∧
      (∀ w common, k.compileVariant s inherit w common (.union i variants) =
        k.nestedUnion s inherit i (common.map (·.name))) ∧
      ∀ parent f, k.compileUnion s inherit i parent = .error (.schema f) → ¬ f.IsWalk := by
  obtain ⟨_, _, hroot, _⟩ := Schema.leafVariants_eq_ok_iff.mp hl
  obtain ⟨variants, hv⟩ := Schema.exists_unfold_of_reaches hroot hr hi
  refine ⟨variants, hv, fun w common => compileVariant_union_eq hi hv, ?_⟩
  intro parent f hf
  cases (compileUnion_settles_of_reaches hk hr hi hv).fault_of_error hf with
  | schema hwalk => exact hwalk

/-- **Exactly which components compile.** Unfolding does not depend on its bound. A plain component
compiles. A union compiles exactly if its leaves can be listed and every union that it reaches is
coherent; else the fault is one of the schema, or a discriminator field of some union above a plain
variant is a list or an object. Once the leaves of the root can be listed, every union that it
reaches is compiled from what it unfolds to by itself, and none of them meets a cycle or an empty
mapping. -/
theorem compile_outcome (hk : k.Suits s) (i : s.Id) (inherit : Bool) :
    (∀ depth, s.size ≤ depth → ∀ j, s.unfoldFrom depth [s.name j] j = s.unfold j) ∧
    ((s.component i).isUnion = false → ∃ d, k.compile s i inherit = .ok d) ∧
    ((s.component i).isUnion = true →
      ((∃ d, k.compile s i inherit = .ok d) ↔ (∃ leaves, s.leafVariants i = .ok leaves) ∧
        ∀ v, s.Reaches i v → (s.component v).isUnion = true → k.Coherent s inherit v)) ∧
    (∀ e, k.compile s i inherit = .error e → (∃ f, e = .schema f) ∨
      (e = .misfit .key ∧ ∃ v l, s.Reaches i v ∧ s.Lists v l ∧ (s.component l).isUnion = false ∧
        (s.component v).tagField.isKey = false)) ∧
    ∀ leaves, s.leafVariants i = .ok leaves → ∀ v, s.Reaches i v → (s.component v).isUnion = true →
      ∃ variants, s.unfold v = .ok variants ∧
        (∀ w common, k.compileVariant s inherit w common (.union v variants) =
          k.nestedUnion s inherit v (common.map (·.name))) ∧
        ∀ parent f, k.compileUnion s inherit v parent = .error (.schema f) → ¬ f.IsWalk := by
  refine ⟨fun depth hd j => Schema.unfoldFrom_eq_unfold hd, exists_compile_of_plain hk,
    exists_compile_iff_of_isUnion hk, ?_, ?_⟩
  · intro e he
    rcases fault_of_compile hk he with hschema | hlate
    · exact Or.inl hschema
    · cases hlate with
      | schema _ => exact Or.inl ⟨_, rfl⟩
      | key hr hl hplain hw => exact Or.inr ⟨rfl, _, _, hr, hl, hplain, hw⟩
  · intro leaves hl v hr hv
    exact nested_of_leafVariants hk hl hr hv

open Payments

/-- The payments compile with inheritance exactly if their leaves can be listed and both their
unions are coherent. -/
theorem payments_outcome :
    Suits {} schema ∧ ((∃ d, ({} : Compiler).compile schema (0 : Fin 3) true = .ok d) ↔
      (∃ leaves, schema.leafVariants (0 : Fin 3) = .ok leaves) ∧
        ∀ v, schema.Reaches (0 : Fin 3) v → (schema.component v).isUnion = true →
          Coherent {} schema true v) := by
  have hk : Suits {} schema :=
    ⟨Convention.isTotal (by decide), textQualifiers_payments, fun _ => ⟨"@", rfl⟩⟩
  obtain ⟨_, _, hiff, _⟩ := compile_outcome hk (0 : Fin 3) true
  exact ⟨hk, hiff rfl⟩

/-- A union whose discriminator field is a list, and its variant. -/
def listTagged : Schema where
  size := 2
  key i := ["Payment", "Card"][i]
  component i := [
    { name := "Payment", fields := [],
      discriminator := some ⟨.arr [.str "type"], [("CARD", (1 : Fin 2))]⟩,
      distinct := List.nodup_nil },
    { name := "Card",
      fields := [{ name := "type", type := { qualifier := .str "kotlin.String" },
                   literals := ["CARD"], required := true }] }][i]

/-- **Not every fault is one of the schema**: the list cannot be looked up among the fields of the
card. And a plain component does not compile with a meta prefix that is no text: it cannot be the
start of a name. -/
theorem not_all_faults_of_schema :
    (¬ ∀ (k : Compiler) (s : Schema) (i : s.Id) (inherit : Bool) (e : CompileFault), k.Suits s →
      k.compile s i inherit = .error e → ∃ f, e = .schema f) ∧
    ¬ ∀ (k : Compiler) (s : Schema) (i : s.Id) (inherit : Bool), k.naming.IsTotal →
      s.TextQualifiers → (s.component i).isUnion = false →
      ∃ d, k.compile s i inherit = .ok d := by
  have htypes : listTagged.TextQualifiers := Schema.textQualifiers_of_isSome (by decide)
  constructor
  · intro hall
    obtain ⟨f, hf⟩ := hall {} listTagged (0 : Fin 2) false (.misfit .key)
      ⟨Convention.isTotal (by decide), htypes, fun _ => ⟨"@", rfl⟩⟩ rfl
    cases hf
  · intro hall
    obtain ⟨d, hd⟩ := hall { metaPrefix := .int 5 } listTagged (1 : Fin 2) false
      (Convention.isTotal (by decide)) htypes
      rfl
    cases hd

end Compiler
end ClassModel
