import ClassModel.Proofs.Compile.ClassTree
import ClassModel.Proofs.Entries

/-!
# Where the tag of a leaf comes from

A union keeps one tag for each name of a leaf below it. Its variants bring their tags one after the
other, and a later one replaces an earlier one. A leaf that several unions share thus ends up with
the tag of the last place where it stands, and the literal there is the one for the discriminator
of the union right above that place. `tags_rel_lastUnion` says so for every union of a compiled
tree.
-/

set_option autoImplicit false

namespace ClassModel

/-! ## The last place of a name -/

namespace Descriptor

mutual

/-- The union right above the last single class of the name, depth first; `above` is the union
right above the tree. -/
def lastAbove (n : String) (above : Descriptor) : Descriptor → Option Descriptor
  | .single head _ => if head.name = n then some above else none
  | .union head discriminator common tags subclasses =>
    lastAboveAll n (.union head discriminator common tags subclasses) subclasses

/-- The same for several trees. -/
def lastAboveAll (n : String) (above : Descriptor) : List Descriptor → Option Descriptor
  | [] => none
  | d :: rest => (lastAboveAll n above rest).or (lastAbove n above d)

end

/-- The union right above the last single class of the name that stands below a union. -/
def lastUnion (n : String) (d : Descriptor) : Option Descriptor := lastAboveAll n d d.subclasses

theorem lastAbove_of_leaf {n : String} {above d : Descriptor} (h : d.isUnion = false) :
    lastAbove n above d = if d.name = n then some above else none := by
  cases d with
  | single => rw [lastAbove]; rfl
  | union => cases h

theorem lastAbove_of_isUnion {n : String} {above d : Descriptor} (h : d.isUnion = true) :
    lastAbove n above d = d.lastUnion n := by
  cases d with
  | single => cases h
  | union => rw [lastAbove, lastUnion, subclasses]

end Descriptor

/-- Related options stay related where later ones come before earlier ones. -/
theorem rel_or {α β : Type} {R : α → β → Prop} {a a' : Option α} {b b' : Option β}
    (h : Option.Rel R a b) (h' : Option.Rel R a' b') : Option.Rel R (a.or a') (b.or b') := by
  cases h with
  | some hr => exact .some hr
  | none => exact h'

namespace Compiler

variable {k : Compiler} {s : Schema} {inherit : Bool} {i : s.Id} {parent : List String}
  {variants : List (Unfolding s.Id)} {d : Descriptor}

/-- `HasTag s l t u`: `t` is the literal of the component `l` for the discriminator of `u`. -/
def HasTag (s : Schema) (l : s.Id) (t : String) (u : Descriptor) : Prop :=
  (s.component l).tag u.discriminator = .ok t

/-- `TagsLast s l tags place`: the leaf `l` has a tag in `tags` exactly if there is a last place of
it, and the tag is the literal for the discriminator there. Each name has one tag. -/
structure TagsLast (s : Schema) (l : s.Id) (tags : Entries String) (place : Option Descriptor) :
    Prop where
  nodup : tags.keys.Nodup
  rel : Option.Rel (HasTag s l) (tags.get? (s.name l)) place

/-- **Merging the tags of variants keeps the last place.** -/
theorem TagsLast.foldl_merge {l : s.Id} {u : Descriptor} {ps : List Part}
    (hps : ∀ p ∈ ps, TagsLast s l p.tags (Descriptor.lastAbove (s.name l) u p.subclass))
    {tags : Entries String} {place : Option Descriptor} (h : TagsLast s l tags place) :
    TagsLast s l (ps.foldl (fun tags p => tags.merge p.tags) tags)
      ((Descriptor.lastAboveAll (s.name l) u (ps.map (·.subclass))).or place) := by
  induction ps generalizing tags place with
  | nil => exact h
  | cons p rest ih =>
    have hp := hps p List.mem_cons_self
    have hstep : TagsLast s l (tags.merge p.tags)
        ((Descriptor.lastAbove (s.name l) u p.subclass).or place) := by
      refine ⟨Entries.nodup_keys_merge h.nodup _, ?_⟩
      rw [Entries.get?_merge hp.nodup]
      exact rel_or hp.rel h.rel
    -- A later variant wins, on both sides.
    rw [List.foldl_cons, List.map_cons, Descriptor.lastAboveAll, Option.or_assoc]
    exact ih (fun q hq => hps q (List.mem_cons_of_mem _ hq)) hstep

/-- The tags of a union, if those of its variants are known. -/
theorem UnionClass.tagsLast {l : s.Id}
    (hv : ∀ v ∈ variants, ∀ w common p u, k.compileVariant s inherit w common v = .ok p →
      u.discriminator = w → TagsLast s l p.tags (Descriptor.lastAbove (s.name l) u p.subclass))
    (h : UnionClass k s inherit i variants parent d) :
    TagsLast s l d.tags (d.lastUnion (s.name l)) := by
  obtain ⟨_, ht, _⟩ := h
  rw [Descriptor.lastUnion, ← @Option.or_none _ (Descriptor.lastAboveAll _ _ _)]
  refine TagsLast.foldl_merge (fun p hp => ?_) ⟨List.nodup_nil, .none⟩
  obtain ⟨v, hv', hvp⟩ := exists_item_of_traverse ht hp
  exact hv v hv' _ _ p _ hvp rfl

/-- **The tags that a variant brings are those of the last places** in its tree. -/
theorem compileVariant_tagsLast (hn : Function.Injective s.name) (l : s.Id) (v : Unfolding s.Id) :
    ∀ w common p u, k.compileVariant s inherit w common v = .ok p → u.discriminator = w →
      TagsLast s l p.tags (Descriptor.lastAbove (s.name l) u p.subclass) := by
  induction v using Unfolding.treeInduction with
  | leaf j =>
    intro w common p u h hu
    obtain ⟨imports, tag, e, hleaf, rfl⟩ := compileVariant_leaf_eq_ok_iff.mp h
    refine ⟨by simp [Entries.keys], ?_⟩
    dsimp only
    rw [Descriptor.lastAbove_of_leaf hleaf.isUnion_eq, hleaf.name_eq]
    by_cases hj : s.name j = s.name l
    · obtain rfl := hn hj
      rw [if_pos rfl]
      have hget : Entries.get? [(s.name j, tag)] (s.name j) = some tag := by simp [Entries.get?]
      rw [hget]
      refine .some ?_
      rw [HasTag, hu]
      exact hleaf.tag_eq
    · rw [if_neg hj]
      have hget : Entries.get? [(s.name j, tag)] (s.name l) = none :=
        Entries.get?_eq_none_of_notMem (by simpa [Entries.keys] using fun hl => hj hl.symm)
      rw [hget]
      exact .none
  | union j us ih =>
    intro w common p u h hu
    obtain ⟨_, e, _, hunion, rfl⟩ := compileVariant_union_eq_ok_iff.mp h
    dsimp only
    rw [Descriptor.lastAbove_of_isUnion hunion.isUnion_eq]
    exact hunion.tagsLast ih

/-- **Every union of a compiled tree tags a leaf by the last place of it below the union**: by the
leaf's literal for the discriminator of the union right above that place. -/
theorem tagsLast_of_site (hn : Function.Injective s.name) (h : k.compile s i inherit = .ok d)
    {above : List Descriptor} {u : Descriptor} (hs : d.Site above u) (hu : u.isUnion = true)
    (l : s.Id) : TagsLast s l u.tags (u.lastUnion (s.name l)) := by
  obtain ⟨_, _, _, hunion⟩ := unionClass_of_site h hs hu
  exact hunion.tagsLast fun v _ => compileVariant_tagsLast hn l v

end Compiler
end ClassModel
