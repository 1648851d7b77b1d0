import ClassModel.Proofs.Compile.Origin
import ClassModel.Proofs.Compile.Overriding
import ClassModel.Proofs.Json.KeyOrder

/-!
# What a class imports

A field needs the qualifiers of its type and of all types that its parameters mention, and a
component needs what its fields need, left-out ones included (`Needs`). A single class imports just
that. A union takes from each of its variants what the variant needs and, if that is a union, what
its class imports in turn. Down the tree of a union this adds up to what is needed by all the
components below it, and not by itself (`UnionClass.listsExactly_imports`). Sorting keeps the keys
(`ListsExactly.sorted`), so nothing is lost on the way, whatever the qualifiers are
(`imports_listed`). Where they are texts, as they are declared to be, the imports are texts in
strictly ascending order (`imports_exact`).
-/

set_option autoImplicit false

namespace ClassModel

/-! ## The types that a field mentions -/

/-- `t.Within u`: the type `t` is `u`, or a type within one of the parameters of `u`. -/
inductive TypeRef.Within : TypeRef → TypeRef → Prop
  | refl (t : TypeRef) : Within t t
  | parameter {t u g : TypeRef} : g ∈ u.generics → Within t g → Within t u

/-- The types of a field: its own, and all within its parameters. -/
def Field.Mentions (f : Field) (t : TypeRef) : Prop := t = f.type ∨ ∃ g ∈ f.generics, t.Within g

namespace Compiler

theorem mem_mentionedAll {t : TypeRef} {us : List TypeRef} :
    t ∈ mentionedAll us ↔ ∃ u ∈ us, t ∈ mentioned u := by
  induction us with
  | nil => simp [mentionedAll]
  | cons u rest ih =>
    rw [mentionedAll, List.mem_append, ih]
    simp [or_comm]

theorem mem_mentioned {t u : TypeRef} :
    t ∈ mentioned u ↔ t = u ∨ ∃ g ∈ u.generics, t ∈ mentioned g := by
  obtain ⟨q, kind, generics⟩ := u
  rw [mentioned, List.mem_cons, mem_mentionedAll]

/-- The walk through the parameters meets the types within a type, at every depth. -/
theorem mem_mentioned_iff_within {t : TypeRef} : (u : TypeRef) → (t ∈ mentioned u ↔ t.Within u)
  | ⟨q, kind, generics⟩ => by
    constructor
    · intro h
      rcases mem_mentioned.mp h with rfl | ⟨g, hg, h⟩
      · exact .refl _
      · exact .parameter hg ((mem_mentioned_iff_within g).mp h)
    · intro h
      cases h with
      | refl => exact mem_mentioned.mpr (Or.inl rfl)
      | parameter hg h =>
        exact mem_mentioned.mpr (Or.inr ⟨_, hg, (mem_mentioned_iff_within _).mpr h⟩)

variable {ι : Type} {k : Compiler} {s : Schema} {inherit : Bool} {i j l : s.Id} {d : Descriptor}
  {w : Json} {common : List ResolvedField} {variants : List (Unfolding s.Id)}
  {parent : List String} {p : Part} {q : Json} {qs : List Json}

/-- The qualifier `q` is needed by a field of the component. -/
def Needs (k : Compiler) (c : Component ι) (q : Json) : Prop :=
  ∃ f ∈ c.fields, ∃ t, f.Mentions t ∧ k.qualifierOf t = .ok q

theorem mem_mentionedAll_iff_mentions {f : Field} {t : TypeRef} :
    t ∈ f.type :: mentionedAll f.generics ↔ f.Mentions t := by
  rw [List.mem_cons, mem_mentionedAll, Field.Mentions]
  simp only [mem_mentioned_iff_within]

theorem mem_fieldImports {f : Field} (h : k.fieldImports f = .ok qs) :
    q ∈ qs ↔ ∃ t, f.Mentions t ∧ k.qualifierOf t = .ok q := by
  rw [fieldImports] at h
  constructor
  · intro hq
    obtain ⟨t, ht, htq⟩ := exists_item_of_traverse h hq
    exact ⟨t, mem_mentionedAll_iff_mentions.mp ht, htq⟩
  · rintro ⟨t, ht, htq⟩
    obtain ⟨q', hq', htq'⟩ :=
      exists_result_of_traverse h (mem_mentionedAll_iff_mentions.mpr ht)
    rw [htq] at htq'
    cases htq'
    exact hq'

/-- The imports of a component are what its fields need. -/
theorem mem_componentImports {c : Component ι} (h : k.componentImports c = .ok qs) :
    q ∈ qs ↔ k.Needs c q := by
  rw [componentImports] at h
  split at h
  · cases h
  · next lists hlists =>
    cases h
    rw [List.mem_flatten]
    constructor
    · rintro ⟨fs, hfs, hq⟩
      obtain ⟨f, hf, hff⟩ := exists_item_of_traverse hlists hfs
      exact ⟨f, hf, (mem_fieldImports hff).mp hq⟩
    · rintro ⟨f, hf, hq⟩
      obtain ⟨fs, hfs, hff⟩ := exists_result_of_traverse hlists hf
      exact ⟨fs, hfs, (mem_fieldImports hff).mpr hq⟩

/-! ## Lists of keys -/

/-- The list holds keys with the property only, and each of them, or one that is the same key. -/
def ListsExactly (qs : List Json) (P : Json → Prop) : Prop :=
  (∀ q ∈ qs, P q) ∧ ∀ q, P q → ∃ q' ∈ qs, q'.sameKey q = true

namespace ListsExactly

variable {P Q : Json → Prop}

theorem congr (h : ListsExactly qs P) (hPQ : ∀ q, P q ↔ Q q) : ListsExactly qs Q := by
  have hfun : P = Q := funext fun q => propext (hPQ q)
  rwa [← hfun]

theorem append {qs' : List Json} (h : ListsExactly qs P) (h' : ListsExactly qs' Q) :
    ListsExactly (qs ++ qs') fun q => P q ∨ Q q := by
  constructor
  · intro q hq
    exact (List.mem_append.mp hq).imp (h.1 q) (h'.1 q)
  · intro q hq
    rcases hq with hq | hq
    · obtain ⟨q', hq', hsame⟩ := h.2 q hq
      exact ⟨q', List.mem_append_left _ hq', hsame⟩
    · obtain ⟨q', hq', hsame⟩ := h'.2 q hq
      exact ⟨q', List.mem_append_right _ hq', hsame⟩

/-- What is listed for each item is listed for all of them together. -/
theorem flatMap {α β : Type} {f : β → List Json} {R : α → Json → Prop} {as : List α}
    {bs : List β} (h : List.Forall₂ (fun a b => ListsExactly (f b) (R a)) as bs) :
    ListsExactly (bs.flatMap f) fun q => ∃ a ∈ as, R a q := by
  constructor
  · intro q hq
    obtain ⟨b, hb, hq⟩ := List.mem_flatMap.mp hq
    obtain ⟨a, ha, hab⟩ := exists_left_of_forall₂ h hb
    exact ⟨a, ha, hab.1 q hq⟩
  · rintro q ⟨a, ha, hq⟩
    obtain ⟨b, hb, hab⟩ := exists_right_of_forall₂ h ha
    obtain ⟨q', hq', hsame⟩ := hab.2 q hq
    exact ⟨q', List.mem_flatMap.mpr ⟨b, hb, hq'⟩, hsame⟩

/-- Sorting keeps what is listed. -/
theorem sorted {imports : List Json} (hs : sortImports qs = .ok imports) (h : ListsExactly qs P) :
    ListsExactly imports P := by
  obtain ⟨hsub, hkept⟩ := mem_of_sortImports hs
  refine ⟨fun q hq => h.1 q (hsub hq), fun q hq => ?_⟩
  obtain ⟨q', hq', hsame⟩ := h.2 q hq
  obtain ⟨p, hp, hp'⟩ := hkept q' hq'
  exact ⟨p, hp, Json.sameKey_trans hp' hsame⟩

/-- Of the texts that are listed, each is listed itself. -/
theorem mem_str_iff {t : String} (h : ListsExactly qs P) : .str t ∈ qs ↔ P (.str t) := by
  constructor
  · exact h.1 _
  · intro ht
    obtain ⟨q, hq, hsame⟩ := h.2 _ ht
    rcases Json.sameKey_iff.mp hsame with ⟨rfl, _⟩ | ⟨_, hnone, _⟩
    · exact hq
    · cases hnone

end ListsExactly

theorem listsExactly_componentImports {c : Component ι} (h : k.componentImports c = .ok qs) :
    ListsExactly qs (k.Needs c) := by
  refine ⟨fun q hq => (mem_componentImports h).mp hq, fun q hq => ?_⟩
  refine ⟨q, (mem_componentImports h).mpr hq, Json.sameKey_self ?_⟩
  obtain ⟨_, _, t, _, ht⟩ := hq
  rw [qualifierOf] at ht
  split at ht
  · cases ht
    rfl
  · split at ht
    · next hkey =>
      cases ht
      exact hkey
    · cases ht

/-! ## Down the tree of a union -/

theorem imports_of_headOf {c : Component ι} {head : ClassHead} (h : headOf c qs = .ok head) :
    sortImports qs = .ok head.imports := by
  obtain ⟨_, hs, rfl⟩ := headOf_eq_ok_iff.mp h
  exact hs

/-- **One step**: if each variant brings what is needed by the components that it reaches, the
union imports what is needed by those below it. -/
theorem UnionClass.imports_step (h : UnionClass k s inherit i variants parent d)
    (hu : s.unfold i = .ok variants)
    (hv : ∀ v ∈ variants, ∀ j w common p, s.GrowsTo j v →
      k.compileVariant s inherit w common v = .ok p →
      ListsExactly p.imports fun q => ∃ l, s.Reaches j l ∧ k.Needs (s.component l) q) :
    ListsExactly d.head.imports fun q => ∃ l, s.ReachesBelow i l ∧ k.Needs (s.component l) q := by
  obtain ⟨_, hparts, hh⟩ := h
  have hlists := comp_of_forall₂ (Schema.forall₂_growsTo hu)
    (forall₂_of_traverse hparts fun v hm p hp => And.intro hm hp)
  have hall := ListsExactly.flatMap (hlists.imp fun j p ⟨v, hgrow, hm, hp⟩ =>
    hv v hm j _ _ p hgrow hp)
  refine ((hall.sorted (imports_of_headOf hh)).congr ?_)
  intro q
  constructor
  · rintro ⟨j, hj, l, hl, hq⟩
    refine ⟨l, Schema.reachesBelow_iff.mpr ⟨j, hj, ?_⟩, hq⟩
    rwa [eq_comm, ← Relation.reflTransGen_iff_eq_or_transGen]
  · rintro ⟨l, hl, hq⟩
    obtain ⟨j, hj, hl⟩ := Schema.reachesBelow_iff.mp hl
    refine ⟨j, hj, l, ?_, hq⟩
    rwa [Schema.Reaches, Relation.reflTransGen_iff_eq_or_transGen, eq_comm]

/-- A variant brings what is needed by the components that it reaches, itself included. -/
theorem imports_of_growsTo (v : Unfolding s.Id) : ∀ j w common p, s.GrowsTo j v →
    k.compileVariant s inherit w common v = .ok p →
    ListsExactly p.imports fun q => ∃ l, s.Reaches j l ∧ k.Needs (s.component l) q := by
  induction v using Unfolding.treeInduction with
  | leaf l =>
    intro j w common p hgrow h
    cases hgrow with
    | leaf hl =>
      obtain ⟨_, _, _, ⟨hi, _, _, _⟩, rfl⟩ := compileVariant_leaf_eq_ok_iff.mp h
      refine (listsExactly_componentImports hi).congr ?_
      intro q
      constructor
      · intro hq
        exact ⟨l, .refl, hq⟩
      · rintro ⟨l', hl', hq⟩
        rwa [hl'.eq_of_plain hl] at hq
  | union i variants ih =>
    intro j w common p hgrow h
    cases hgrow with
    | union hi hu =>
      obtain ⟨_, d, hown, hunion, rfl⟩ := compileVariant_union_eq_ok_iff.mp h
      refine ((listsExactly_componentImports hown).append (hunion.imports_step hu ih)).congr ?_
      intro q
      -- What the union needs itself, and what is needed below it.
      simp only [Schema.Reaches, Relation.reflTransGen_iff_eq_or_transGen, or_and_right, exists_or,
        exists_eq_left]

/-- **A union imports what is needed by the components below it**, by no others, and not by
itself unless it is below itself. -/
theorem UnionClass.listsExactly_imports (h : UnionClass k s inherit i variants parent d)
    (hu : s.unfold i = .ok variants) :
    ListsExactly d.head.imports fun q => ∃ l, s.ReachesBelow i l ∧ k.Needs (s.component l) q :=
  h.imports_step hu fun v _ => imports_of_growsTo v

theorem ClassOf.pairwise_imports (h : ClassOf k s inherit j d)
    (hn : .float .nan ∉ d.head.imports) :
    d.head.imports.Pairwise fun a b => keyBefore a b = true ∧ a.sameKey b = false := by
  cases h with
  | single _ hs =>
    obtain ⟨_, _, _, hh, rfl⟩ := singleWith_eq_ok_iff.mp hs
    exact pairwise_of_sortImports (imports_of_headOf hh) hn
  | union _ _ hunion =>
    obtain ⟨_, _, hh⟩ := hunion
    exact pairwise_of_sortImports (imports_of_headOf hh) hn

/-- **No import is lost and none is added**, whatever the qualifiers are. A single class imports the
qualifiers that the fields of its component need, with their parameters at every depth; a union
those that are needed by the components that its mapping leads to, in one step or more. The imports
are in strictly ascending order, unless not-a-number is among them. -/
theorem imports_listed (h : k.compile s i inherit = .ok d) {route : List Nat} {u : Descriptor}
    (hu : d.at? route = some u) :
    ∃ j, s.follow? i route = some j ∧
      (.float .nan ∉ u.head.imports →
        u.head.imports.Pairwise fun a b => keyBefore a b = true ∧ a.sameKey b = false) ∧
      (u.isUnion = false → ListsExactly u.head.imports (k.Needs (s.component j))) ∧
      (u.isUnion = true → ListsExactly u.head.imports fun q =>
        ∃ l, s.ReachesBelow j l ∧ k.Needs (s.component l) q) := by
  obtain ⟨j, hj, hclass⟩ := (classOf_of_compile h).of_at? hu
  refine ⟨j, hj, hclass.pairwise_imports, ?_, ?_⟩
  · intro hplain
    cases hclass with
    | single _ hs =>
      obtain ⟨_, _, hi, hh, rfl⟩ := singleWith_eq_ok_iff.mp hs
      exact (listsExactly_componentImports hi).sorted (imports_of_headOf hh)
    | union _ _ hunion =>
      rw [hunion.isUnion_eq] at hplain
      cases hplain
  · intro hunion
    cases hclass with
    | single hplain hs =>
      obtain ⟨_, _, _, _, rfl⟩ := singleWith_eq_ok_iff.mp hs
      cases hunion
    | union _ hv hclass => exact hclass.listsExactly_imports hv

/-- Where types are given by texts, texts are all that is needed. -/
theorem Needs.exists_text {c : Component ι} (ht : ∀ f ∈ c.fields, f.TextQualifiers)
    (h : k.Needs c q) : ∃ t, q = .str t := by
  obtain ⟨f, hf, t, hmention, hq⟩ := h
  obtain ⟨own, hown⟩ := ht f hf t (mem_mentionedAll_iff_mentions.mpr hmention)
  rw [qualifierOf, hown] at hq
  cases hq
  exact ⟨_, rfl⟩

/-- **Imports are exact.** Where types are given by texts, every class of a compiled tree has as
its imports texts in strictly ascending order. A single class imports the qualifiers that the fields
of its component need, with their parameters at every depth; a union those that are needed by the
components that its mapping leads to, in one step or more. -/
theorem imports_exact (ht : s.TextQualifiers) (h : k.compile s i inherit = .ok d)
    {route : List Nat} {u : Descriptor} (hu : d.at? route = some u) :
    ∃ j, ∃ texts : List String, s.follow? i route = some j ∧
      u.head.imports = texts.map .str ∧ texts.Pairwise (· < ·) ∧
      (u.isUnion = false → ∀ q, q ∈ texts ↔ k.Needs (s.component j) (.str q)) ∧
      (u.isUnion = true → ∀ q, q ∈ texts ↔
        ∃ l, s.ReachesBelow j l ∧ k.Needs (s.component l) (.str q)) := by
  obtain ⟨j, hj, hascending, hplain, hunion⟩ := imports_listed h hu
  have hneeded : ∀ q ∈ u.head.imports, ∃ t, q = .str t := by
    intro q hq
    cases hu : u.isUnion with
    | false => exact ((hplain hu).1 q hq).exists_text (ht j)
    | true =>
      obtain ⟨l, _, hl⟩ := (hunion hu).1 q hq
      exact hl.exists_text (ht l)
  obtain ⟨texts, himports, htexts⟩ := exists_texts_of_pairwise hneeded
    (hascending fun hnan => nomatch hneeded _ hnan)
  have hmem : ∀ q, q ∈ texts ↔ .str q ∈ u.head.imports := by
    intro q
    rw [himports]
    simp
  refine ⟨j, texts, hj, himports, htexts, fun hu q => ?_, fun hu q => ?_⟩
  · rw [hmem, (hplain hu).mem_str_iff]
  · rw [hmem, (hunion hu).mem_str_iff]

open Payments

/-- The transfers import what the card needs that they list, and nothing else. -/
theorem transfer_imports :
    ∃ j, ∃ texts : List String, schema.follow? (0 : Fin 3) [1] = some j ∧
      transferClass.head.imports = texts.map .str ∧ texts.Pairwise (· < ·) ∧
      (transferClass.isUnion = false → ∀ q, q ∈ texts ↔ Needs {} (schema.component j) (.str q)) ∧
      (transferClass.isUnion = true → ∀ q, q ∈ texts ↔
        ∃ l, schema.ReachesBelow j l ∧ Needs {} (schema.component l) (.str q)) := by
  have htext : schema.TextQualifiers := Schema.textQualifiers_of_isSome (by decide)
  have hat : paymentClass.at? [1] = some transferClass := rfl
  exact imports_exact htext compile_schema hat

end Compiler
end ClassModel
