import ClassModel.Proofs.Compile.SharedFields

/-!
# The text of a type determines the type

The text of a type depends on the tree of its short names only (`typeText_eq`), each name rewritten
by the provided types. For trees whose names have neither a bracket of the naming nor a comma the
tree can be read off the text again: a name ends where a bracket or a comma stands, or with the
text; and where a list of parameters ends is known since each tree is read together with what
follows it (`tree_eq_of_spell_eq`). An opening bracket is written for parameters only, so a single
parameter with an empty name is not the same as none.

So comparing texts, as it is done for the shared fields of leaves, compares trees.
-/

set_option autoImplicit false

namespace ClassModel

/-- A tree of short names: that of a type, with those of its parameters below it. -/
inductive NameTree
  | node (name : String) (parameters : List NameTree)

/-- The naming writes a type with parameters with these brackets. -/
def Naming.PutsIn (n : Naming) (b : Brackets) : Prop :=
  ∀ base parameters, n.parameterize base parameters = .ok (b.apply base parameters)

theorem Convention.putsIn (n : Convention) : n.naming.PutsIn n.brackets := fun _ _ => rfl

variable {k : Compiler} {b : Brackets}

/-! ## The tree of a type -/

namespace Compiler

mutual

/-- The short names of a type and of its parameters, at every depth. -/
def nameTree (k : Compiler) : TypeRef → Except Misfit NameTree
  | ⟨q, kind, generics⟩ =>
    match k.shortName ⟨q, kind, []⟩ with
    | .error e => .error e
    | .ok name =>
      match nameTrees k generics with
      | .error e => .error e
      | .ok parameters => .ok (.node name parameters)

/-- The short names of several types. -/
def nameTrees (k : Compiler) : List TypeRef → Except Misfit (List NameTree)
  | [] => .ok []
  | t :: rest =>
    match nameTree k t with
    | .error e => .error e
    | .ok x =>
      match nameTrees k rest with
      | .error e => .error e
      | .ok xs => .ok (x :: xs)

end

/-- The tree of a field's type, applied to the parameters of the field. -/
def fieldTree (k : Compiler) (f : Field) : Except Misfit NameTree :=
  k.nameTree ⟨f.type.qualifier, f.type.kind, f.generics⟩

end Compiler

namespace Brackets

mutual

/-- The text of a tree. -/
def treeText (b : Brackets) : NameTree → String
  | .node name [] => name
  | .node name (x :: more) => b.apply name (treeText b x :: treeTexts b more)

/-- The texts of several trees. -/
def treeTexts (b : Brackets) : List NameTree → List String
  | [] => []
  | x :: rest => treeText b x :: treeTexts b rest

end

end Brackets

namespace Compiler

theorem applied_treeTexts (hb : k.naming.PutsIn b) (name : String) (xs : List NameTree) :
    k.applied name (b.treeTexts xs) = .ok (b.treeText (.node name xs)) := by
  cases xs with
  | nil =>
    rw [Brackets.treeTexts, Brackets.treeText]
    rfl
  | cons x more =>
    rw [Brackets.treeTexts, Brackets.treeText]
    exact hb name _

mutual

/-- **The text of a type is that of its tree.** -/
theorem typeText_eq (hb : k.naming.PutsIn b) (t : TypeRef) :
    k.typeText t = (k.nameTree t).map b.treeText := by
  cases t with
  | mk q kind generics =>
    rw [typeText, nameTree, typeTexts_eq hb generics]
    cases k.shortName ⟨q, kind, []⟩ with
    | error m => rfl
    | ok name =>
      cases k.nameTrees generics with
      | error m => rfl
      | ok parameters => exact applied_treeTexts hb name parameters

theorem typeTexts_eq (hb : k.naming.PutsIn b) (ts : List TypeRef) :
    k.typeTexts ts = (k.nameTrees ts).map b.treeTexts := by
  cases ts with
  | nil =>
    rw [typeTexts, nameTrees]
    show Except.ok [] = .ok (b.treeTexts [])
    rw [Brackets.treeTexts]
  | cons t rest =>
    rw [typeTexts, nameTrees, typeText_eq hb t, typeTexts_eq hb rest]
    cases k.nameTree t with
    | error m => rfl
    | ok x =>
      cases k.nameTrees rest with
      | error m => rfl
      | ok xs =>
        show Except.ok (b.treeText x :: b.treeTexts xs) = .ok (b.treeTexts (x :: xs))
        rw [Brackets.treeTexts]

end

theorem typeText_of_nameTree (hb : k.naming.PutsIn b) {t : TypeRef} {x : NameTree}
    (h : k.nameTree t = .ok x) : k.typeText t = .ok (b.treeText x) := by
  rw [typeText_eq hb, h]
  rfl

/-- A type has a tree if all types that it mentions are given by texts. -/
theorem exists_nameTree (hb : k.naming.PutsIn b) (hn : k.naming.IsTotal) {t : TypeRef}
    (h : ∀ u ∈ mentioned t, ∃ q, u.qualifier = .str q) : ∃ x, k.nameTree t = .ok x := by
  obtain ⟨text, ht⟩ := exists_typeText hn t h
  rw [typeText_eq hb] at ht
  cases hx : k.nameTree t with
  | error m =>
    rw [hx] at ht
    cases ht
  | ok x => exact ⟨x, rfl⟩

end Compiler

/-! ## Writing a tree -/

namespace Brackets

/-- The bracket before the parameters. -/
def opening : Brackets → Char
  | .angle => '<'
  | .square => '['

/-- The bracket after the parameters. -/
def closing : Brackets → Char
  | .angle => '>'
  | .square => ']'

/-- Where a name ends: at one of the brackets or at a comma. -/
def Stops (b : Brackets) (c : Char) : Prop := c = b.opening ∨ c = b.closing ∨ c = ','

/-- A tree may end here: nothing follows, or a comma, or the bracket after the parameters. -/
def Ends (b : Brackets) (rest : List Char) : Prop := ∀ c ∈ rest.head?, c = b.closing ∨ c = ','

theorem opening_ne (b : Brackets) : b.opening ≠ b.closing ∧ b.opening ≠ ',' := by
  cases b <;> decide

theorem closing_ne (b : Brackets) : b.closing ≠ ',' := by
  cases b <;> decide

end Brackets

namespace NameTree

mutual

/-- The text of a tree, and the text that follows it. -/
def spell (b : Brackets) : NameTree → List Char → List Char
  | .node name parameters, rest => name.toList ++ spellAll b parameters rest

/-- All parameters of a type, in brackets; nothing if there are none. -/
def spellAll (b : Brackets) : List NameTree → List Char → List Char
  | [], rest => rest
  | x :: more, rest => b.opening :: spell b x (spellMore b more rest)

/-- The parameters after the first one, and the bracket that ends them. -/
def spellMore (b : Brackets) : List NameTree → List Char → List Char
  | [], rest => b.closing :: rest
  | x :: more, rest => ',' :: ' ' :: spell b x (spellMore b more rest)

end

mutual

/-- No name of the tree has a bracket or a comma. -/
def Plain (b : Brackets) : NameTree → Prop
  | .node name parameters => (∀ c ∈ name.toList, ¬ b.Stops c) ∧ PlainAll b parameters

/-- No name of the trees has a bracket or a comma. -/
def PlainAll (b : Brackets) : List NameTree → Prop
  | [] => True
  | x :: rest => Plain b x ∧ PlainAll b rest

end

end NameTree

/-- Parameters after the first one, each with the comma before it. -/
def further (texts : List String) : List Char := texts.flatMap fun s => ',' :: ' ' :: s.toList

theorem intercalate_toList (first : String) (more : List String) :
    (", ".intercalate (first :: more)).toList = first.toList ++ further more := by
  rw [String.toList_intercalate]
  induction more generalizing first with
  | nil => simp [further]
  | cons next more ih =>
    have hcons := ih next
    rw [List.map_cons] at hcons
    rw [List.map_cons, List.map_cons, List.intercalate_cons_cons, hcons]
    simp [further]

/-- A type applied to parameters, as characters. -/
theorem Brackets.toList_apply (b : Brackets) (base first : String) (more : List String) :
    (b.apply base (first :: more)).toList = base.toList ++
      b.opening :: (first.toList ++ further more ++ [b.closing]) := by
  rw [← intercalate_toList]
  cases b <;> simp [apply, opening, closing]

namespace NameTree

mutual

theorem toList_treeText_append : (x : NameTree) → (rest : List Char) →
    (b.treeText x).toList ++ rest = spell b x rest
  | .node name [], rest => by
    rw [Brackets.treeText, spell, spellAll]
  | .node name (x :: more), rest => by
    rw [Brackets.treeText, spell, spellAll, ← toList_treeText_append x,
      ← further_treeTexts_append more rest, Brackets.toList_apply]
    simp

theorem further_treeTexts_append : (xs : List NameTree) → (rest : List Char) →
    further (b.treeTexts xs) ++ b.closing :: rest = spellMore b xs rest
  | [], rest => by
    rw [Brackets.treeTexts, spellMore]
    rfl
  | x :: more, rest => by
    rw [Brackets.treeTexts, spellMore, ← toList_treeText_append x,
      ← further_treeTexts_append more rest]
    simp [further]

end

end NameTree

/-! ## Reading a tree -/

namespace NameTree

variable {xs : List NameTree} {name name' rest rest' : List Char}

/-- Two names that end where they have to are equal, and so is what follows them. -/
theorem name_eq_of_append_eq {stop : Char → Prop} (hname : ∀ c ∈ name, ¬ stop c)
    (hname' : ∀ c ∈ name', ¬ stop c) (hrest : ∀ c ∈ rest.head?, stop c)
    (hrest' : ∀ c ∈ rest'.head?, stop c) (h : name ++ rest = name' ++ rest') :
    name = name' ∧ rest = rest' := by
  induction name generalizing name' with
  | nil =>
    cases name' with
    | nil => exact ⟨rfl, h⟩
    | cons c more =>
      -- What follows the first name would start inside the second one.
      rw [List.nil_append] at h
      have hc : stop c := hrest c (by simp [h])
      exact absurd hc (hname' c List.mem_cons_self)
  | cons c more ih =>
    cases name' with
    | nil =>
      rw [List.nil_append] at h
      have hc : stop c := hrest' c (by simp [← h])
      exact absurd hc (hname c List.mem_cons_self)
    | cons c' more' =>
      rw [List.cons_append, List.cons_append] at h
      obtain ⟨rfl, htail⟩ := List.cons.inj h
      obtain ⟨_, hname⟩ := List.forall_mem_cons.mp hname
      obtain ⟨_, hname'⟩ := List.forall_mem_cons.mp hname'
      obtain ⟨rfl, heq⟩ := ih hname hname' htail
      exact ⟨rfl, heq⟩

theorem ends_spellMore (b : Brackets) (xs : List NameTree) (rest : List Char) :
    b.Ends (spellMore b xs rest) := by
  cases xs with
  | nil =>
    rw [spellMore]
    intro c hc
    exact Or.inl (Option.mem_some.mp hc).symm
  | cons x more =>
    rw [spellMore]
    intro c hc
    exact Or.inr (Option.mem_some.mp hc).symm

/-- What follows a name is something that ends it. -/
theorem stops_spellAll (hrest : b.Ends rest) : ∀ c ∈ (spellAll b xs rest).head?, b.Stops c := by
  intro c hc
  cases xs with
  | nil =>
    rw [spellAll] at hc
    exact Or.inr (hrest c hc)
  | cons x more =>
    rw [spellAll] at hc
    exact Or.inl (Option.mem_some.mp hc).symm

/-- A tree does not end with the bracket before parameters. -/
theorem not_ends_opening (b : Brackets) (cs : List Char) : ¬ b.Ends (b.opening :: cs) := by
  intro h
  rcases h b.opening rfl with heq | heq
  · exact b.opening_ne.1 heq
  · exact b.opening_ne.2 heq

mutual

/-- **A tree is read back with what follows it.** -/
theorem tree_eq_of_spell_eq : (x y : NameTree) → (rest rest' : List Char) → x.Plain b →
    y.Plain b → b.Ends rest → b.Ends rest' → spell b x rest = spell b y rest' →
    x = y ∧ rest = rest'
  | .node name parameters, .node name' parameters', rest, rest', hx, hy, hrest, hrest', h => by
    rw [Plain] at hx hy
    rw [spell, spell] at h
    obtain ⟨hname, h⟩ := name_eq_of_append_eq hx.1 hy.1 (stops_spellAll hrest)
      (stops_spellAll hrest') h
    obtain ⟨rfl, hrest⟩ := trees_eq_of_spellAll_eq parameters parameters' rest rest' hx.2 hy.2
      hrest hrest' h
    rw [String.toList_inj.mp hname]
    exact ⟨rfl, hrest⟩

theorem trees_eq_of_spellAll_eq : (xs ys : List NameTree) → (rest rest' : List Char) →
    PlainAll b xs → PlainAll b ys → b.Ends rest → b.Ends rest' →
    spellAll b xs rest = spellAll b ys rest' → xs = ys ∧ rest = rest'
  | [], [], rest, rest', _, _, _, _, h => by
    rw [spellAll, spellAll] at h
    exact ⟨rfl, h⟩
  | [], y :: ys, rest, rest', _, _, hrest, _, h => by
    rw [spellAll, spellAll] at h
    rw [h] at hrest
    exact absurd hrest (not_ends_opening b _)
  | x :: xs, [], rest, rest', _, _, _, hrest', h => by
    rw [spellAll, spellAll] at h
    rw [← h] at hrest'
    exact absurd hrest' (not_ends_opening b _)
  | x :: xs, y :: ys, rest, rest', hx, hy, _, _, h => by
    rw [PlainAll] at hx hy
    rw [spellAll, spellAll] at h
    obtain ⟨rfl, hmore⟩ := tree_eq_of_spell_eq x y _ _ hx.1 hy.1 (ends_spellMore b xs rest)
      (ends_spellMore b ys rest') (List.cons.inj h).2
    obtain ⟨rfl, heq⟩ := trees_eq_of_spellMore_eq xs ys rest rest' hx.2 hy.2 hmore
    exact ⟨rfl, heq⟩

theorem trees_eq_of_spellMore_eq : (xs ys : List NameTree) → (rest rest' : List Char) →
    PlainAll b xs → PlainAll b ys → spellMore b xs rest = spellMore b ys rest' →
    xs = ys ∧ rest = rest'
  | [], [], rest, rest', _, _, h => by
    rw [spellMore, spellMore] at h
    exact ⟨rfl, (List.cons.inj h).2⟩
  | [], y :: ys, rest, rest', _, _, h => by
    rw [spellMore, spellMore] at h
    exact absurd (List.cons.inj h).1 b.closing_ne
  | x :: xs, [], rest, rest', _, _, h => by
    rw [spellMore, spellMore] at h
    exact absurd (List.cons.inj h).1.symm b.closing_ne
  | x :: xs, y :: ys, rest, rest', hx, hy, h => by
    rw [PlainAll] at hx hy
    rw [spellMore, spellMore] at h
    -- After the comma stands a space, whatever the name that follows.
    have htree := (List.cons.inj (List.cons.inj h).2).2
    obtain ⟨rfl, hmore⟩ := tree_eq_of_spell_eq x y _ _ hx.1 hy.1 (ends_spellMore b xs rest)
      (ends_spellMore b ys rest') htree
    obtain ⟨rfl, heq⟩ := trees_eq_of_spellMore_eq xs ys rest rest' hx.2 hy.2 hmore
    exact ⟨rfl, heq⟩

end

variable {x y : NameTree}

/-- **Trees with plain names have different texts.** -/
theorem treeText_eq_iff (hx : x.Plain b) (hy : y.Plain b) :
    b.treeText x = b.treeText y ↔ x = y := by
  constructor
  · intro h
    have hend : b.Ends [] := by
      intro c hc
      cases hc
    have hspell : x.spell b [] = y.spell b [] := by
      rw [← toList_treeText_append, ← toList_treeText_append, h]
    exact (tree_eq_of_spell_eq x y [] [] hx hy hend hend hspell).1
  · intro h
    rw [h]

end NameTree

namespace Compiler

variable {x y : NameTree} {f g : Field} {r : ResolvedField}

/-! ## Fields and leaves -/

/-- A field without literals resolves to one that has the text of its tree for its type. -/
theorem resolveField_of_fieldTree (hb : k.naming.PutsIn b) (hl : f.literals = [])
    (h : k.fieldTree f = .ok x) :
    k.resolveField f =
      .ok { name := f.name, type := b.treeText x, required := f.required } := by
  have henum : f.isEnum = false := by
    rw [Field.isEnum, hl]
    rfl
  have htype : k.appliedText f.type f.generics = .ok (b.treeText x) := typeText_of_nameTree hb h
  rw [resolveField, htype, henum]
  rfl

/-- A field that is no enumeration and has a type with plain names. -/
def PlainField (k : Compiler) (b : Brackets) (f : Field) : Prop :=
  f.literals = [] ∧ ∃ x, k.fieldTree f = .ok x ∧ x.Plain b

/-- Two fields have types with the same tree, and both or none of them is required. -/
def SameDeclared (k : Compiler) (f g : Field) : Prop :=
  k.fieldTree f = k.fieldTree g ∧ f.required = g.required

/-- **Plain fields have one shape exactly if their trees agree**, and their flags. -/
theorem shape_eq_iff {r' : ResolvedField} (hb : k.naming.PutsIn b) (hf : k.PlainField b f)
    (hg : k.PlainField b g) (hr : k.resolveField f = .ok r) (hr' : k.resolveField g = .ok r') :
    r.shape = r'.shape ↔ k.SameDeclared f g := by
  obtain ⟨hl, x, hx, hplain⟩ := hf
  obtain ⟨hl', y, hy, hplain'⟩ := hg
  rw [resolveField_of_fieldTree hb hl hx] at hr
  rw [resolveField_of_fieldTree hb hl' hy] at hr'
  cases hr
  cases hr'
  rw [SameDeclared, hx, hy, Except.ok.injEq, ← NameTree.treeText_eq_iff hplain hplain']
  simp [ResolvedField.shape]

variable {ι : Type} {w : Json} {leaves : List (Component ι)} {resolved : List (List ResolvedField)}

/-- The name is that of a field which all leaves show, and it is not the discriminator. -/
def CommonName (k : Compiler) (w : Json) (leaves : List (Component ι)) (n : String) : Prop :=
  w.text? ≠ some n ∧ ∀ c ∈ leaves, k.Shows c.fields n

/-- Two fields of two of the leaves have one common name. -/
structure Meet (k : Compiler) (w : Json) (leaves : List (Component ι)) (f g : Field) : Prop where
  common : k.CommonName w leaves f.name
  name : f.name = g.name
  left : ∃ c ∈ leaves, f ∈ c.fields
  right : ∃ c ∈ leaves, g ∈ c.fields

theorem ResolveTo.commonName_iff (h : k.ResolveTo w leaves resolved) (hne : leaves ≠ [])
    {n : String} : k.CommonName w leaves n ↔ ∀ fs ∈ resolved, ∃ r ∈ fs, r.name = n := by
  constructor
  · rintro ⟨hw, hall⟩ fs hfs
    obtain ⟨c, hc, hr⟩ := exists_left_of_forall₂ h hfs
    exact (exists_resolved_iff_shows hr).mpr ⟨hall c hc, hw⟩
  · intro hall
    have hshow : ∀ c ∈ leaves, k.Shows c.fields n ∧ w.text? ≠ some n := by
      intro c hc
      obtain ⟨fs, hfs, hr⟩ := exists_right_of_forall₂ h hc
      exact (exists_resolved_iff_shows hr).mp (hall fs hfs)
    obtain ⟨c, hc⟩ := List.exists_mem_of_ne_nil leaves hne
    exact ⟨(hshow c hc).2, fun c hc => (hshow c hc).1⟩

/-- A leaf lists each of its fields with a common name, if that is plain. -/
theorem ResolveTo.exists_resolved (h : k.ResolveTo w leaves resolved) (hb : k.naming.PutsIn b)
    {c : Component ι} (hc : c ∈ leaves) (hf : f ∈ c.fields)
    (hcommon : k.CommonName w leaves f.name) (hplain : k.PlainField b f) :
    ∃ fs ∈ resolved, ∃ r ∈ fs, k.resolveField f = .ok r := by
  obtain ⟨fs, hfs, hres⟩ := exists_right_of_forall₂ h hc
  obtain ⟨hl, x, hx, _⟩ := hplain
  have hr := resolveField_of_fieldTree hb hl hx
  exact ⟨fs, hfs, _, (mem_resolveFields hres).mpr ⟨f, hf, (hcommon.2 c hc).1, hcommon.1, hr⟩, hr⟩

/-- **The shapes of the leaves agree exactly if their trees do.** -/
theorem ResolveTo.shapesAgree_iff (h : k.ResolveTo w leaves resolved) (hb : k.naming.PutsIn b)
    (hplain : ∀ c ∈ leaves, ∀ f ∈ c.fields, k.CommonName w leaves f.name → k.PlainField b f) :
    ShapesAgree resolved ↔ ∀ f g, k.Meet w leaves f g → k.SameDeclared f g := by
  constructor
  · rintro hagree f g ⟨hcommon, hname, ⟨c, hc, hf⟩, c', hc', hg⟩
    have hcommon' : k.CommonName w leaves g.name := hname ▸ hcommon
    have hpf := hplain c hc f hf hcommon
    have hpg := hplain c' hc' g hg hcommon'
    obtain ⟨fs, hfs, r, hr, hfr⟩ := h.exists_resolved hb hc hf hcommon hpf
    obtain ⟨fs', hfs', r', hr', hgr⟩ := h.exists_resolved hb hc' hg hcommon' hpg
    have hall := (h.commonName_iff (List.ne_nil_of_mem hc)).mp hcommon
    exact (shape_eq_iff hb hpf hpg hfr hgr).mp (hagree f.name hall fs hfs fs' hfs' r hr r' hr'
      (name_of_resolveField hfr) ((name_of_resolveField hgr).trans hname.symm))
  · intro hsame n hall fs hfs fs' hfs' r hr r' hr' hname hname'
    obtain ⟨c, hc, hres⟩ := exists_left_of_forall₂ h hfs
    obtain ⟨c', hc', hres'⟩ := exists_left_of_forall₂ h hfs'
    obtain ⟨f, hf, _, _, hfr⟩ := (mem_resolveFields hres).mp hr
    obtain ⟨g, hg, _, _, hgr⟩ := (mem_resolveFields hres').mp hr'
    have hfn : f.name = n := (name_of_resolveField hfr).symm.trans hname
    have hgn : g.name = n := (name_of_resolveField hgr).symm.trans hname'
    have hcommon := (h.commonName_iff (List.ne_nil_of_mem hc)).mpr hall
    have hcf : k.CommonName w leaves f.name := hfn.symm ▸ hcommon
    have hcg : k.CommonName w leaves g.name := hgn.symm ▸ hcommon
    rw [shape_eq_iff hb (hplain c hc f hf hcf) (hplain c' hc' g hg hcg) hfr hgr]
    exact hsame f g ⟨hcf, hfn.trans hgn.symm, ⟨c, hc, hf⟩, c', hc', hg⟩

/-- **Texts of types determine types**, up to short names, provided types applied. A type that is
given by texts has a tree of short names. Two types whose trees have neither a bracket of the naming
nor a comma in their names have one text exactly if they have one tree, whatever their depth and
however many parameters they have. So two fields that are no enumerations are resolved to one type
exactly if their trees are equal, and to one shape if they are also both required or both not; and
where all fields with common names are such fields, leaves have shared fields exactly if every two
of these fields with one name agree on tree and flag. -/
theorem texts_determine_trees (k : Compiler) (b : Brackets) (hb : k.naming.PutsIn b) :
    (k.naming.IsTotal → ∀ t, (∀ u ∈ mentioned t, ∃ q, u.qualifier = .str q) →
      ∃ x, k.nameTree t = .ok x) ∧
    (∀ (t t' : TypeRef) (generics generics' : List TypeRef) (x x' : NameTree),
      k.nameTree ⟨t.qualifier, t.kind, generics⟩ = .ok x →
      k.nameTree ⟨t'.qualifier, t'.kind, generics'⟩ = .ok x' →
      x.Plain b → x'.Plain b →
      (k.appliedText t generics = k.appliedText t' generics' ↔ x = x')) ∧
    (∀ f g, k.PlainField b f → k.PlainField b g → ∃ r r', k.resolveField f = .ok r ∧
      k.resolveField g = .ok r' ∧ (r.type = r'.type ↔ k.fieldTree f = k.fieldTree g) ∧
      (r.shape = r'.shape ↔ k.SameDeclared f g)) ∧
    (∀ (ι : Type) (w : Json) (leaves : List (Component ι)) (resolved : List (List ResolvedField)),
      k.ResolveTo w leaves resolved →
      (∀ c ∈ leaves, ∀ f ∈ c.fields, k.CommonName w leaves f.name → k.PlainField b f) →
      ((∃ common, k.commonFieldsOf w leaves = .ok common) ↔
        ∀ f g, k.Meet w leaves f g → k.SameDeclared f g)) := by
  refine ⟨fun hn t h => exists_nameTree hb hn h, ?_, ?_, ?_⟩
  · intro t t' generics generics' x x' hx hx' hplain hplain'
    rw [appliedText, appliedText, typeText_of_nameTree hb hx, typeText_of_nameTree hb hx',
      Except.ok.injEq, NameTree.treeText_eq_iff hplain hplain']
  · intro f g hf hg
    obtain ⟨hl, x, hx, hplain⟩ := id hf
    obtain ⟨hl', y, hy, hplain'⟩ := id hg
    have hr := resolveField_of_fieldTree hb hl hx
    have hr' := resolveField_of_fieldTree hb hl' hy
    refine ⟨_, _, hr, hr', ?_, shape_eq_iff hb hf hg hr hr'⟩
    rw [hx, hy, Except.ok.injEq, NameTree.treeText_eq_iff hplain hplain']
  · intro ι w leaves resolved h hplain
    rw [← h.shapesAgree_iff hb hplain]
    simp [h.eq_ok_iff]

end Compiler

namespace Ledger

/-- A type of a package, applied to parameters. -/
def ref (qualifier : String) (generics : List TypeRef := []) : TypeRef :=
  { qualifier := .str qualifier, generics }

/-- The amounts of an account, in lists of the given package. -/
def amounts (package : String) : Field :=
  { name := "amounts", type := ref "kotlin.Map",
    generics := [ref (package ++ ".List") [ref "kotlin.Long"]] }

/-- Two accounts, with lists of different packages. -/
def leaves : List (Component Unit) :=
  [{ name := "Savings", fields := [amounts "java.util"] },
    { name := "Giro", fields := [amounts "kotlin.collections"] }]

/-- The tree of the amounts. -/
def amountsTree : NameTree := .node "Map" [.node "List" [.node "Long" []]]

theorem plain_amountsTree : amountsTree.Plain .angle := by
  simp [amountsTree, NameTree.Plain, NameTree.PlainAll, Brackets.Stops, Brackets.opening,
    Brackets.closing]

theorem fieldTree_amounts {f : Field} (h : ∃ c ∈ leaves, f ∈ c.fields) :
    f.literals = [] ∧ ({} : Compiler).fieldTree f = .ok amountsTree ∧ f.required = false := by
  obtain ⟨c, hc, hf⟩ := h
  simp only [leaves, List.mem_cons, List.not_mem_nil, or_false] at hc
  rcases hc with rfl | rfl
  · obtain rfl := List.mem_singleton.mp hf
    exact ⟨rfl, rfl, rfl⟩
  · obtain rfl := List.mem_singleton.mp hf
    exact ⟨rfl, rfl, rfl⟩

/-- The parameter of a parameter is not a second parameter, and the package of a list does not
matter for what accounts share. -/
theorem ledger_types :
    ({} : Compiler).fieldTree (amounts "java.util") = .ok amountsTree ∧
      amountsTree.Plain .angle ∧
      ({} : Compiler).appliedText (ref "kotlin.Map") [ref "java.util.List" [ref "kotlin.Long"]] ≠
        ({} : Compiler).appliedText (ref "kotlin.Map") [ref "java.util.List", ref "kotlin.Long"] ∧
      ∃ common, ({} : Compiler).commonFieldsOf .null leaves = .ok common := by
  obtain ⟨_, htexts, _, hleaves⟩ :=
    Compiler.texts_determine_trees {} .angle Convention.standard.putsIn
  refine ⟨rfl, plain_amountsTree, ?_, ?_⟩
  · have hflat : NameTree.Plain .angle (.node "Map" [.node "List" [], .node "Long" []]) := by
      simp [NameTree.Plain, NameTree.PlainAll, Brackets.Stops, Brackets.opening,
        Brackets.closing]
    rw [Ne, htexts (ref "kotlin.Map") (ref "kotlin.Map") _ _ amountsTree _ rfl rfl
      plain_amountsTree hflat]
    simp [amountsTree]
  · have hresolved : ({} : Compiler).ResolveTo .null leaves
        [[{ name := "amounts", type := "Map<List<Long>>" }],
          [{ name := "amounts", type := "Map<List<Long>>" }]] := .cons rfl (.cons rfl .nil)
    refine (hleaves Unit .null leaves _ hresolved ?_).mpr ?_
    · intro c hc f hf _
      obtain ⟨hl, htree, _⟩ := fieldTree_amounts ⟨c, hc, hf⟩
      exact ⟨hl, amountsTree, htree, plain_amountsTree⟩
    · intro f g h
      obtain ⟨_, htree, hflag⟩ := fieldTree_amounts h.left
      obtain ⟨_, htree', hflag'⟩ := fieldTree_amounts h.right
      exact ⟨htree.trans htree'.symm, hflag.trans hflag'.symm⟩

end Ledger
end ClassModel
