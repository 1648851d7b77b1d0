import ClassModel.Compile.ClassTree
import ClassModel.Proofs.Compile.Unfolding
import ClassModel.Proofs.Descriptor.Site
import ClassModel.Proofs.Traverse

/-!
# What a compiled class is made of

Each function of the compiler is opened once, here, into what it has computed when it succeeds.
`LeafClass` and `UnionClass` are that record for the two kinds of classes below a union; a union is
built in two places, at the root and below another union, by the same steps. The laws of compiled
trees go down a tree by `UnionClass.subclass_cases` and open nothing else of the compiler.
-/

set_option autoImplicit false

namespace ClassModel

/-- The field that tells the variants of a union apart; `null` for a component that is no union. -/
def Component.tagField {ι : Type} (c : Component ι) : Json :=
  (c.discriminator.map (·.field)).getD .null

namespace Compiler

variable {ι : Type} {k : Compiler} {s : Schema} {inherit : Bool} {w : Json}
  {common : List ResolvedField} {i : s.Id} {variants : List (Unfolding s.Id)}
  {parent : List String} {d : Descriptor} {p : Part} {parts : List Part}

theorem headOf_eq_ok_iff {c : Component ι} {imports : List Json} {head : ClassHead} :
    headOf c imports = .ok head ↔
      ∃ sorted, sortImports imports = .ok sorted ∧ head = ⟨c.name, c.qualifier, sorted⟩ := by
  rw [headOf]
  cases sortImports imports with
  | error m => simp
  | ok sorted => simp [eq_comm]

theorem name_of_headOf {c : Component ι} {imports : List Json} {head : ClassHead}
    (h : headOf c imports = .ok head) : head.name = c.name := by
  obtain ⟨_, _, rfl⟩ := headOf_eq_ok_iff.mp h
  rfl

theorem singleWith_eq_ok_iff {c : Component ι} {fields : List ResolvedField} :
    k.singleWith c fields = .ok d ↔ ∃ imports head, k.componentImports c = .ok imports ∧
      headOf c imports = .ok head ∧ d = .single head fields := by
  rw [singleWith]
  cases k.componentImports c with
  | error m => simp
  | ok imports =>
    cases hh : headOf c imports with
    | error e => simp [hh]
    | ok head => simp [hh, eq_comm]

theorem compileSingle_eq_ok_iff {c : Component ι} :
    k.compileSingle c = .ok d ↔ ∃ fields, k.resolveFields .null c.fields = .ok fields ∧
      k.singleWith c fields = .ok d := by
  rw [compileSingle]
  cases k.resolveFields .null c.fields with
  | error m => simp
  | ok fields => simp

theorem unionOf_eq_ok_iff {c : Component ι} :
    unionOf c w parent common parts = .ok d ↔
      ∃ head, headOf c (parts.flatMap (·.imports)) = .ok head ∧
        d = .union head w (common.filter fun f => !parent.contains f.name)
          (parts.foldl (fun tags p => tags.merge p.tags) []) (parts.map (·.subclass)) := by
  rw [unionOf]
  cases headOf c (parts.flatMap (·.imports)) with
  | error e => simp
  | ok head => simp [eq_comm]

/-! ## Unions -/

/-- `UnionClass k s inherit i variants parent d`: `d` is the class of the union `i`, whose variants
unfold to `variants`, below a union whose common fields have the names `parent`. -/
inductive UnionClass (k : Compiler) (s : Schema) (inherit : Bool) (i : s.Id)
    (variants : List (Unfolding s.Id)) (parent : List String) : Descriptor → Prop
  | intro {head : ClassHead} {lifted : List ResolvedField} {parts : List Part} :
      k.liftedFields s inherit (s.component i).tagField variants = .ok lifted →
      traverse (k.compileVariant s inherit (s.component i).tagField lifted) variants = .ok parts →
      headOf (s.component i) (parts.flatMap (·.imports)) = .ok head →
      UnionClass k s inherit i variants parent
        (.union head (s.component i).tagField (lifted.filter fun f => !parent.contains f.name)
          (parts.foldl (fun tags p => tags.merge p.tags) []) (parts.map (·.subclass)))

theorem compileVariants_eq_traverse (us : List (Unfolding s.Id)) :
    k.compileVariants s inherit w common us =
      traverse (k.compileVariant s inherit w common) us := by
  induction us with
  | nil => rw [compileVariants, traverse]
  | cons u rest ih =>
    rw [compileVariants, traverse, ih]
    cases k.compileVariant s inherit w common u with
    | error e => rfl
    | ok part => cases traverse (k.compileVariant s inherit w common) rest <;> rfl

/-- `LeafClass k s w common l imports tag e`: `e` is the class of the leaf `l` below a union with
the discriminator `w` and the common fields `common`; `imports` and `tag` are what the leaf brings
besides. -/
inductive LeafClass (k : Compiler) (s : Schema) (w : Json) (common : List ResolvedField)
    (l : s.Id) (imports : List Json) (tag : String) : Descriptor → Prop
  | intro {head : ClassHead} {fields : List ResolvedField} :
      k.componentImports (s.component l) = .ok imports →
      k.resolveFields w (s.component l).fields = .ok fields →
      headOf (s.component l) imports = .ok head → (s.component l).tag w = .ok tag →
      LeafClass k s w common l imports tag (.single head (overridesFirst common fields))

/-- A leaf brings its own imports, its tag and a single class. -/
theorem compileVariant_leaf_eq_ok_iff :
    k.compileVariant s inherit w common (.leaf i) = .ok p ↔ ∃ imports tag d,
      LeafClass k s w common i imports tag d ∧ p = ⟨imports, [(s.name i, tag)], d⟩ := by
  rw [compileVariant, compileLeaf]
  constructor
  · intro h
    split at h
    · cases h
    · next imports hi =>
      split at h
      · cases h
      · next d hd =>
        split at h
        · cases h
        · next tag ht =>
          split at hd
          · cases hd
          · next fields hf =>
            obtain ⟨imports', head, hi', hh, rfl⟩ := singleWith_eq_ok_iff.mp hd
            rw [hi] at hi'
            cases hi'
            exact ⟨imports, tag, _, .intro hi hf hh ht, (Except.ok.inj h).symm⟩
  · rintro ⟨imports, tag, d, ⟨hi, hf, hh, ht⟩, rfl⟩
    rw [hi, hf]
    dsimp only
    rw [singleWith_eq_ok_iff.mpr ⟨imports, _, hi, hh, rfl⟩]
    dsimp only
    rw [ht]

/-- A nested union brings its own imports, those of its class, the tags of its class and the
class. -/
theorem compileVariant_union_eq_ok_iff :
    k.compileVariant s inherit w common (.union i variants) = .ok p ↔ ∃ imports d,
      k.componentImports (s.component i) = .ok imports ∧
      UnionClass k s inherit i variants (common.map (·.name)) d ∧
      p = ⟨imports ++ d.head.imports, d.tags, d⟩ := by
  have hw : ((s.component i).discriminator.map (·.field)).getD .null
      = (s.component i).tagField := rfl
  simp only [compileVariant, compileVariants_eq_traverse, hw]
  constructor
  · intro h
    split at h
    · cases h
    · next imports hi =>
      split at h
      · cases h
      · next lifted hl =>
        split at h
        · cases h
        · next parts ht =>
          split at h
          · cases h
          · next d hd =>
            obtain ⟨head, hh, rfl⟩ := unionOf_eq_ok_iff.mp hd
            exact ⟨imports, _, hi, .intro hl ht hh, (Except.ok.inj h).symm⟩
  · rintro ⟨imports, d, hi, ⟨hl, ht, hh⟩, rfl⟩
    rw [hi]
    dsimp only
    rw [hl]
    dsimp only
    rw [ht]
    dsimp only
    rw [unionOf_eq_ok_iff.mpr ⟨_, hh, rfl⟩]

/-- The class of a union that is compiled on its own: the union unfolds, and the class is built of
the unfolded variants. -/
theorem compileUnion_eq_ok_iff :
    k.compileUnion s inherit i parent = .ok d ↔ (s.component i).isUnion = true ∧
      ∃ variants, s.unfold i = .ok variants ∧ UnionClass k s inherit i variants parent d := by
  rw [compileUnion, Schema.requireUnion, Component.isUnion]
  cases hc : (s.component i).discriminator with
  | none => simp
  | some disc =>
    have hw : disc.field = (s.component i).tagField := by simp [Component.tagField, hc]
    dsimp only
    rw [hw]
    constructor
    · intro h
      split at h
      · cases h
      · next variants hu =>
        split at h
        · cases h
        · next lifted hl =>
          split at h
          · cases h
          · next parts ht =>
            rw [compileVariants_eq_traverse] at ht
            obtain ⟨head, hh, rfl⟩ := unionOf_eq_ok_iff.mp h
            exact ⟨rfl, variants, hu, .intro hl ht hh⟩
    · rintro ⟨_, variants, hu, ⟨hl, ht, hh⟩⟩
      rw [hu]
      dsimp only
      rw [hl]
      dsimp only
      rw [compileVariants_eq_traverse, ht]
      exact unionOf_eq_ok_iff.mpr ⟨_, hh, rfl⟩

/-- A component compiles to the class of a union or to a single class, as it is one or the other. -/
theorem compile_eq_ok_iff :
    k.compile s i inherit = .ok d ↔
      ((s.component i).isUnion = true ∧
        ∃ variants, s.unfold i = .ok variants ∧ UnionClass k s inherit i variants [] d) ∨
      ((s.component i).isUnion = false ∧ k.compileSingle (s.component i) = .ok d) := by
  rw [compile]
  cases hc : (s.component i).isUnion with
  | false => simp
  | true => simp [compileUnion_eq_ok_iff, hc]

/-! ## One step down a tree -/

theorem LeafClass.isUnion_eq {l : s.Id} {imports : List Json} {tag : String}
    (h : LeafClass k s w common l imports tag d) : d.isUnion = false := by
  cases h
  rfl

theorem LeafClass.name_eq {l : s.Id} {imports : List Json} {tag : String}
    (h : LeafClass k s w common l imports tag d) : d.name = s.name l := by
  obtain ⟨_, _, hh, _⟩ := h
  exact name_of_headOf hh

theorem LeafClass.tag_eq {l : s.Id} {imports : List Json} {tag : String}
    (h : LeafClass k s w common l imports tag d) : (s.component l).tag w = .ok tag := by
  obtain ⟨_, _, _, ht⟩ := h
  exact ht

namespace UnionClass

theorem name_eq (h : UnionClass k s inherit i variants parent d) : d.name = s.name i := by
  obtain ⟨_, _, hh⟩ := h
  exact name_of_headOf hh

theorem isUnion_eq (h : UnionClass k s inherit i variants parent d) : d.isUnion = true := by
  cases h
  rfl

/-- **One step down**: a union lists the lifted fields that are new to it, and each of its
subclasses is the class of one of its variants, below the union's discriminator and all its lifted
fields. -/
theorem subclass_cases (h : UnionClass k s inherit i variants parent d) :
    ∃ lifted, k.liftedFields s inherit d.discriminator variants = .ok lifted ∧
      d.ownFields = lifted.filter (fun f => !parent.contains f.name) ∧
      ∀ sub ∈ d.subclasses,
        (∃ l imports tag, .leaf l ∈ variants ∧
          LeafClass k s d.discriminator lifted l imports tag sub) ∨
        (∃ j nested, .union j nested ∈ variants ∧
          UnionClass k s inherit j nested (lifted.map (·.name)) sub) := by
  obtain ⟨hl, ht, _⟩ := h
  refine ⟨_, hl, rfl, fun sub hsub => ?_⟩
  obtain ⟨p, hp, rfl⟩ := List.mem_map.mp hsub
  obtain ⟨v, hv, hvp⟩ := exists_item_of_traverse ht hp
  cases v with
  | leaf l =>
    obtain ⟨imports, tag, e, hleaf, rfl⟩ := compileVariant_leaf_eq_ok_iff.mp hvp
    exact Or.inl ⟨l, imports, tag, hv, hleaf⟩
  | union j nested =>
    obtain ⟨_, e, _, hunion, rfl⟩ := compileVariant_union_eq_ok_iff.mp hvp
    exact Or.inr ⟨j, nested, hv, hunion⟩

/-- Every union of the tree of a union is the class of a union. -/
theorem of_site {above : List Descriptor} {u : Descriptor}
    (h : UnionClass k s inherit i variants parent d) (hs : d.Site above u)
    (hu : u.isUnion = true) : ∃ j us names, UnionClass k s inherit j us names u := by
  induction hs generalizing i variants parent with
  | root d => exact ⟨i, variants, parent, h⟩
  | under hsub hs ih =>
    obtain ⟨_, _, _, hcases⟩ := h.subclass_cases
    rcases hcases _ hsub with ⟨_, _, _, _, hleaf⟩ | ⟨_, _, _, hunion⟩
    · cases hleaf
      obtain ⟨_, rfl⟩ := Descriptor.site_single hs
      cases hu
    · exact ih hunion hu

end UnionClass

/-- **Every union of a compiled tree is the class of a union.** -/
theorem unionClass_of_site {above : List Descriptor} {u : Descriptor}
    (h : k.compile s i inherit = .ok d) (hs : d.Site above u) (hu : u.isUnion = true) :
    ∃ j us names, UnionClass k s inherit j us names u := by
  rcases compile_eq_ok_iff.mp h with ⟨_, _, _, hunion⟩ | ⟨_, hc⟩
  · exact hunion.of_site hs hu
  · obtain ⟨_, _, hc⟩ := compileSingle_eq_ok_iff.mp hc
    obtain ⟨_, _, _, _, rfl⟩ := singleWith_eq_ok_iff.mp hc
    obtain ⟨_, rfl⟩ := Descriptor.site_single hs
    cases hu

end Compiler
end ClassModel
