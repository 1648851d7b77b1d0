import ClassModel.Proofs.Compile.Inheritance
import ClassModel.Proofs.Compile.Overriding
import ClassModel.Proofs.Compile.Provided

/-!
# A compiled tree mirrors its definitions

The routes of a tree are those of the mappings below its root. Here is what stands at them: a class
has the name, the qualifier and the kind of its component (`Mirrors`), a union has one subclass for
each entry of the mapping, and a leaf lists what its component declares, sorted into overrides and
other fields but otherwise in order (`ListsDeclared`).

What a field carries is said apart from how the compiler finds it: `TypedAs` has one rule for each
of the three ways to write a type, and `declared` filters by names only. The filter of the compiler
tests the meta prefix with a value that may be no text; where it has got through all fields the two
are the same (`filter_emits_eq`).
-/

set_option autoImplicit false

namespace ClassModel

variable {k : Compiler} {s : Schema} {inherit : Bool} {i j : s.Id} {d sub : Descriptor} {w : Json}
  {f : Field} {fs : List Field} {r : ResolvedField} {rs common : List ResolvedField}

/-- The class has the name, the qualifier and the kind of the component. -/
structure Mirrors (s : Schema) (j : s.Id) (d : Descriptor) : Prop where
  name : d.name = s.name j
  qualifier : d.head.qualifier = (s.component j).qualifier
  isUnion : d.isUnion = (s.component j).isUnion

namespace Compiler

theorem ClassOf.mirrors (h : ClassOf k s inherit j d) : Mirrors s j d :=
  ⟨h.name_eq, h.qualifier_eq, h.isUnion_eq⟩

/-! ## One field -/

/-- `k.Spelled t text`: the short name of the type, followed by its parameters if it has any. -/
inductive Spelled (k : Compiler) : TypeRef → String → Prop
  | plain {q kind : Json} {base : String} : k.shortName ⟨q, kind, []⟩ = .ok base →
      Spelled k ⟨q, kind, []⟩ base
  | applied {q kind : Json} {generics : List TypeRef} {base text : String} {texts : List String} :
      generics ≠ [] → k.shortName ⟨q, kind, []⟩ = .ok base →
      List.Forall₂ (Spelled k) generics texts → k.naming.parameterize base texts = .ok text →
      Spelled k ⟨q, kind, generics⟩ text

mutual

theorem spelled_of_typeText : (t : TypeRef) → (text : String) → k.typeText t = .ok text →
    k.Spelled t text
  | ⟨q, kind, generics⟩, text, h => by
    rw [typeText] at h
    cases hb : k.shortName ⟨q, kind, []⟩ with
    | error m =>
      rw [hb] at h
      cases h
    | ok base =>
      cases hp : k.typeTexts generics with
      | error m =>
        rw [hb, hp] at h
        cases h
      | ok texts =>
        rw [hb, hp] at h
        have hspelled := spelled_of_typeTexts generics texts hp
        cases hspelled with
        | nil =>
          cases h
          exact .plain hb
        | cons ht hrest => exact .applied (List.cons_ne_nil _ _) hb (.cons ht hrest) h

theorem spelled_of_typeTexts : (ts : List TypeRef) → (texts : List String) →
    k.typeTexts ts = .ok texts → List.Forall₂ k.Spelled ts texts
  | [], texts, h => by
    rw [typeTexts] at h
    cases h
    exact .nil
  | t :: rest, texts, h => by
    rw [typeTexts] at h
    cases ht : k.typeText t with
    | error m =>
      rw [ht] at h
      cases h
    | ok text =>
      cases hr : k.typeTexts rest with
      | error m =>
        rw [ht, hr] at h
        cases h
      | ok texts' =>
        rw [ht, hr] at h
        cases h
        exact .cons (spelled_of_typeText t text ht) (spelled_of_typeTexts rest texts' hr)

end

/-- `k.TypedAs f type enum`: the text of the type of the field and its enumeration. A field without
literals has the text of its type, applied to the parameters of the field, and no enumeration. A
field with literals has an enumeration, which is its type too, or the parameter of the collection
that is its type. -/
inductive TypedAs (k : Compiler) (f : Field) : String → Option EnumClass → Prop
  | plain {type : String} : f.literals = [] →
      k.Spelled ⟨f.type.qualifier, f.type.kind, f.generics⟩ type → TypedAs k f type none
  | enum {name : String} : f.literals ≠ [] → f.type.isArray = false →
      k.naming.enumName f.name = .ok name → TypedAs k f name (some ⟨name, f.literals⟩)
  | collection {name base type : String} : f.literals ≠ [] → f.type.isArray = true →
      k.naming.enumName f.name = .ok name → k.shortName f.type = .ok base →
      k.naming.parameterize base [name] = .ok type → TypedAs k f type (some ⟨name, f.literals⟩)

/-- The resolved field is what the declaration says; nothing is said about overriding. -/
structure Carries (k : Compiler) (f : Field) (r : ResolvedField) : Prop where
  name : r.name = f.name
  required : r.required = f.required
  typed : k.TypedAs f r.type r.enum
  isAbstract : r.isAbstract = false

theorem typedAs_of_enumType {e : EnumClass} {type : String} (hl : f.literals ≠ [])
    (he : k.enumOf f = .ok e) (h : k.enumType f e = .ok type) : k.TypedAs f type (some e) := by
  obtain ⟨name, literals⟩ := e
  obtain ⟨hname, rfl⟩ := enumOf_eq_ok_iff.mp he
  rw [enumType] at h
  cases ha : f.type.isArray with
  | false =>
    rw [ha] at h
    cases h
    exact .enum hl ha hname
  | true =>
    rw [ha, if_pos rfl] at h
    cases hb : k.shortName f.type with
    | error m =>
      rw [hb] at h
      cases h
    | ok base =>
      rw [hb] at h
      exact .collection hl ha hname hb h

theorem carries_of_resolveField (h : k.resolveField f = .ok r) :
    k.Carries f r ∧ r.isOverride = false := by
  obtain ⟨type, enum, htyped, rfl⟩ := resolveField_eq_ok_iff.mp h
  refine ⟨⟨rfl, rfl, ?_, rfl⟩, rfl⟩
  rcases htyped with ⟨hl, e, he, ht, rfl⟩ | ⟨hl, ht, rfl⟩
  · exact typedAs_of_enumType (by simpa [Field.isEnum] using hl) he ht
  · exact .plain (by simpa [Field.isEnum] using hl) (spelled_of_typeText _ _ ht)

/-! ## Which fields are listed -/

/-- Does the name start with the meta prefix? An empty prefix, or one that is no text, starts no
name. -/
def startsMeta (k : Compiler) (name : String) : Bool :=
  match k.metaPrefix with
  | .str p => p != "" && p.toList.isPrefixOf name.toList
  | _ => false

/-- The declarations without meta fields and without the field that `w` names. -/
def declared (k : Compiler) (w : Json) (fs : List Field) : List Field :=
  fs.filter fun f => !k.startsMeta f.name && w.text? != some f.name

theorem declared_null : k.declared .null fs = fs.filter fun f => !k.startsMeta f.name := by
  apply List.filter_congr
  intro f _
  exact Bool.and_true _

theorem isMeta_eq {name : String} {b : Bool} (h : k.isMeta name = .ok b) :
    b = k.startsMeta name := by
  unfold isMeta at h
  unfold startsMeta
  cases hp : k.metaPrefix with
  | str p =>
    by_cases he : p = ""
    · simp_all [Json.isSet]
    · simp_all [Json.isSet]
  | _ =>
    rw [hp] at h
    split at h
    · exact (Except.ok.inj h).symm
    · cases h

theorem filter_emits_eq (h : ∀ f ∈ fs, ∃ b, k.isMeta f.name = .ok b) :
    fs.filter (k.emits w) = k.declared w fs := by
  apply List.filter_congr
  intro f hf
  obtain ⟨b, hb⟩ := h f hf
  unfold emits
  rw [hb, isMeta_eq hb]

/-- Resolving carries over the declared fields in order. -/
theorem carries_of_resolveFields (h : k.resolveFields w fs = .ok rs) :
    List.Forall₂ (fun f r => k.Carries f r ∧ r.isOverride = false) (k.declared w fs) rs := by
  obtain ⟨hall, ht⟩ := resolveFields_eq_ok_iff.mp h
  rw [← filter_emits_eq hall]
  exact (traverse_eq_ok_iff.mp ht).imp fun _ _ hr => carries_of_resolveField hr

/-- The fields are the declared ones, each once: first those that are overridden and then the
others, both in the order of their declaration. -/
def ListsDeclared (k : Compiler) (w : Json) (fs : List Field) (rs : List ResolvedField) : Prop :=
  ∃ overridden : Field → Bool, List.Forall₂
    (fun f r => k.Carries f r ∧ r.isOverride = overridden f)
    ((k.declared w fs).filter overridden ++ (k.declared w fs).filter fun f => !overridden f) rs

theorem listsDeclared_overridesFirst (h : k.resolveFields w fs = .ok rs) :
    k.ListsDeclared w fs (overridesFirst common rs) := by
  let overridden (f : Field) : Bool := common.any (·.name = f.name)
  have hmarked : List.Forall₂ (fun f r => k.Carries f r ∧ r.isOverride = overridden f)
      (k.declared w fs)
      (rs.map fun r => { r with isOverride := common.any (·.name = r.name) }) := by
    rw [List.forall₂_map_right_iff]
    refine (carries_of_resolveFields h).imp ?_
    intro f r hr
    obtain ⟨hname, hrequired, htyped, habstract⟩ := hr.1
    refine ⟨⟨hname, hrequired, htyped, habstract⟩, ?_⟩
    rw [hname]
  -- Declarations and marked fields are filtered alike, so each part of the partition keeps its
  -- order.
  refine ⟨overridden, List.rel_append ?_ ?_⟩
  · apply List.rel_filter ?_ hmarked
    intro f r hr
    simp [hr.2]
  · apply List.rel_filter ?_ hmarked
    intro f r hr
    simp [hr.2]

/-! ## All fields of a tree -/

theorem exists_carries (h : k.resolveFields w fs = .ok rs) (hr : r ∈ rs) : ∃ f, k.Carries f r := by
  obtain ⟨f, _, hf, _⟩ := exists_left_of_forall₂ (carries_of_resolveFields h) hr
  exact ⟨f, hf⟩

/-- **Every field of a tree is typed as a declaration of its name is**, whatever class lists it:
common fields and marked ones have flags of their own, but keep name, type and enumeration. -/
theorem exists_declaration_of_site {above : List Descriptor} {u : Descriptor}
    (h : k.compile s i inherit = .ok d) (hs : d.Site above u) (hr : r ∈ u.ownFields) :
    ∃ f, f.name = r.name ∧ k.TypedAs f r.type r.enum := by
  cases hu : u.isUnion with
  | true =>
    obtain ⟨_, _, _, hunion⟩ := unionClass_of_site h hs hu
    obtain ⟨lifted, hl, hown, _⟩ := hunion.subclass_cases
    rw [hown] at hr
    have hmem : r ∈ lifted := List.mem_of_mem_filter hr
    cases inherit with
    | false =>
      rw [liftedFields_false] at hl
      cases hl
      cases hmem
    | true =>
      obtain ⟨resolved, ht, hc⟩ := liftedFields_eq_ok_iff.mp hl
      obtain ⟨_, rs, hrs, r', hr', rfl⟩ := origin_of_commonFields hc hmem
      obtain ⟨_, _, hresolve⟩ := exists_item_of_traverse ht hrs
      obtain ⟨f, hf⟩ := exists_carries hresolve hr'
      exact ⟨f, hf.name.symm, hf.typed⟩
  | false =>
    rcases leaf_cases h hs hu with ⟨rfl, _⟩ | ⟨_, _, _, _, _, _, _, _, hleaf⟩
    · -- A leaf without a union above is the whole tree.
      cases hs
      rcases compile_eq_ok_iff.mp h with ⟨_, _, _, hunion⟩ | ⟨_, hc⟩
      · rw [hunion.isUnion_eq] at hu
        cases hu
      · obtain ⟨fields, hresolve, hs⟩ := compileSingle_eq_ok_iff.mp hc
        obtain ⟨_, _, _, _, rfl⟩ := singleWith_eq_ok_iff.mp hs
        obtain ⟨f, hf⟩ := exists_carries hresolve hr
        exact ⟨f, hf.name.symm, hf.typed⟩
    · obtain ⟨rs, hresolve, hmem⟩ := hleaf.exists_resolved
      obtain ⟨r', hr', rfl⟩ := (hmem r).mp hr
      obtain ⟨f, hf⟩ := exists_carries hresolve hr'
      exact ⟨f, hf.name.symm, hf.typed⟩

theorem exists_typedAs_of_site {above : List Descriptor} {u : Descriptor}
    (h : k.compile s i inherit = .ok d) (hs : d.Site above u) (hr : r ∈ u.ownFields) :
    ∃ f, k.TypedAs f r.type r.enum := by
  obtain ⟨f, _, hf⟩ := exists_declaration_of_site h hs hr
  exact ⟨f, hf⟩

/-- The type of a field with an enumeration is the enumeration or a collection of it. -/
theorem TypedAs.refers {type : String} {enum : Option EnumClass} {e : EnumClass}
    (h : k.TypedAs f type enum) (he : enum = some e) :
    type = e.name ∨ ∃ base, k.naming.parameterize base [e.name] = .ok type := by
  cases h with
  | plain _ _ => cases he
  | enum _ _ _ =>
    cases he
    exact Or.inl rfl
  | collection _ _ _ _ hp =>
    cases he
    exact Or.inr ⟨_, hp⟩

/-! ## The classes below a union -/

/-- **One step down.** The subclasses of a union mirror the variants of its component, and those
that are leaves list what the variants declare without the discriminator of the union. -/
theorem UnionClass.forall₂_mirrors {variants : List (Unfolding s.Id)} {parent : List String}
    (hu : s.unfold j = .ok variants) (h : UnionClass k s inherit j variants parent d) :
    List.Forall₂ (fun l sub => Mirrors s l sub ∧ (sub.isUnion = false →
        k.ListsDeclared (s.component j).tagField (s.component l).fields sub.ownFields))
      (s.component j).targets d.subclasses := by
  obtain ⟨_, hparts, _⟩ := h
  have hgrow := Schema.forall₂_growsTo hu
  have hcompiled := traverse_eq_ok_iff.mp hparts
  rw [Descriptor.subclasses, List.forall₂_map_right_iff]
  refine (comp_of_forall₂ hgrow hcompiled).imp ?_
  intro l p hl
  obtain ⟨v, hv, hp⟩ := hl
  refine ⟨(classOf_of_growsTo hv hp).mirrors, ?_⟩
  intro hleaf
  cases hv with
  | leaf _ =>
    obtain ⟨_, _, _, hclass, rfl⟩ := compileVariant_leaf_eq_ok_iff.mp hp
    obtain ⟨_, hfields, _, _⟩ := hclass
    exact listsDeclared_overridesFirst hfields
  | union hj hv =>
    rw [(classOf_of_growsTo (.union hj hv) hp).isUnion_eq, hj] at hleaf
    cases hleaf

/-- The class of a union mirrors its mapping, entry by entry. -/
theorem ClassOf.exists_mapping (h : ClassOf k s inherit j d) (hd : d.isUnion = true) :
    ∃ disc, (s.component j).discriminator = some disc ∧
      List.Forall₂ (fun entry sub => Mirrors s entry.2 sub ∧ (sub.isUnion = false →
          k.ListsDeclared disc.field (s.component entry.2).fields sub.ownFields))
        disc.mapping d.subclasses := by
  cases h with
  | single hj hs =>
    obtain ⟨_, _, _, _, rfl⟩ := singleWith_eq_ok_iff.mp hs
    cases hd
  | union hj hu hunion =>
    obtain ⟨disc, hdisc⟩ := Option.isSome_iff_exists.mp hj
    have hsubs := hunion.forall₂_mirrors hu
    have htag : (s.component j).tagField = disc.field := by simp [Component.tagField, hdisc]
    have htargets : (s.component j).targets = disc.mapping.map (·.2) := by
      simp [Component.targets, Component.mapping, hdisc]
    rw [htag, htargets, List.forall₂_map_left_iff] at hsubs
    exact ⟨disc, hdisc, hsubs⟩

/-- **A compiled tree mirrors its definitions.** At each route there is the class of the component
at the same route of the mappings. A union has one subclass for each entry of the mapping, in its
order, with the name, the qualifier and the kind of the variant; a leaf lists the declared fields
but for meta fields and the discriminator of the union right above it, overridden ones first. A root
that is no union lists all fields but meta fields as they are declared. -/
theorem compile_mirrors (h : k.compile s i inherit = .ok d) :
    (∀ route u, d.at? route = some u → ∃ j, s.follow? i route = some j ∧ Mirrors s j u ∧
      (u.isUnion = true → ∃ disc, (s.component j).discriminator = some disc ∧
        List.Forall₂ (fun entry sub => Mirrors s entry.2 sub ∧ (sub.isUnion = false →
            k.ListsDeclared disc.field (s.component entry.2).fields sub.ownFields))
          disc.mapping u.subclasses)) ∧
    (d.isUnion = false → List.Forall₂ (fun f r => k.Carries f r ∧ r.isOverride = false)
      ((s.component i).fields.filter fun f => !k.startsMeta f.name) d.ownFields) := by
  constructor
  · intro route u hu
    obtain ⟨j, hj, hclass⟩ := (classOf_of_compile h).of_at? hu
    exact ⟨j, hj, hclass.mirrors, hclass.exists_mapping⟩
  · intro hd
    rcases compile_eq_ok_iff.mp h with ⟨_, _, _, hunion⟩ | ⟨_, hsingle⟩
    · rw [hunion.isUnion_eq] at hd
      cases hd
    · obtain ⟨fields, hfields, hs⟩ := compileSingle_eq_ok_iff.mp hsingle
      obtain ⟨_, _, _, _, rfl⟩ := singleWith_eq_ok_iff.mp hs
      rw [← declared_null]
      exact carries_of_resolveFields hfields

open Notes in
/-- The card below the receipts lists its notes and not its type. -/
theorem card_mirrored :
    ({ provided := Notes.provided } : Compiler).compile schema (0 : Fin 2) true =
      .ok receiptClass ∧
    Mirrors schema (1 : Fin 2) cardClass ∧
    ({ provided := Notes.provided } : Compiler).ListsDeclared (.str "type")
      (schema.component (1 : Fin 2)).fields cardClass.ownFields := by
  obtain ⟨hroutes, _⟩ := compile_mirrors compile_schema
  obtain ⟨j, hj, _, hunion⟩ := hroutes [] receiptClass rfl
  cases hj
  obtain ⟨disc, hdisc, hsubs⟩ := hunion rfl
  cases hdisc
  cases hsubs with
  | cons hcard _ => exact ⟨compile_schema, hcard.1, hcard.2 rfl⟩

end Compiler
end ClassModel
