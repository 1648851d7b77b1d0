import ClassModel.Proofs.Entries
import ClassModel.Settings.Load

/-!
# Layers of settings

An option can be set in two ways, by a key of its own in a layer or in the layer's object of
options, and in one layer the key of its own counts (`Layer.option?`).

Layers are merged from the lowest up, and each way is merged by itself: what a layer sets in one of
them counts before what is below it (`get?_under`, `topOption?_under`, `listedOption?_under`), so
over all layers the highest one counts (`findSome?_layers`). The two ways meet only after that, in
the settings of the merged layer (`custom_ofLayer`). So a key of its own in any layer counts before
all objects of options (`option?_merged`). Settings are not touched by this.
-/

set_option autoImplicit false

namespace ClassModel

variable {k : String} {l base top : Layer}

namespace Layer

/-- The value that a layer gives an option by a key of its own. A key of a setting sets no
option. -/
def topOption? (l : Layer) (k : String) : Option Json :=
  if k ∈ Settings.keys then none else l.get? k

/-- The value that a layer gives an option in its object of options. -/
def listedOption? (l : Layer) (k : String) : Option Json := (l.options?.getD []).get? k

/-- The value that a layer gives an option. -/
def option? (l : Layer) (k : String) : Option Json := (l.topOption? k).or (l.listedOption? k)

/-! ## One layer above another -/

theorem nodup_keys_options : (l.options?.getD []).keys.Nodup := by
  rw [options?]
  cases hcustom : l.get? customKey with
  | none => exact List.nodup_nil
  | some j =>
    cases j with
    | obj es => exact Entries.nodup_keys_ofList es
    | _ => exact List.nodup_nil

/-- Setting the object of options sets nothing else. -/
theorem get?_under (ho : top.keys.Nodup) (hk : k ≠ customKey) :
    (base.under top).get? k = (top.get? k).or (base.get? k) := by
  have hmerged : (base.merge (top.erase customKey)).get? k = (top.get? k).or (base.get? k) := by
    rw [Entries.get?_merge (Entries.nodup_keys_erase ho _), Entries.get?_erase, if_neg hk]
  rw [under]
  split
  · rw [Entries.get?_set_ne _ _ hk, hmerged]
  · exact hmerged

theorem nodup_keys_under (hb : base.keys.Nodup) : (base.under top).keys.Nodup := by
  have hmerged := Entries.nodup_keys_merge hb (top.erase customKey)
  rw [under]
  split
  · exact Entries.nodup_keys_set hmerged _ _
  · exact hmerged

theorem topOption?_under (ho : top.keys.Nodup) :
    (base.under top).topOption? k = (top.topOption? k).or (base.topOption? k) := by
  rw [topOption?, topOption?, topOption?]
  split
  · rfl
  · next hk =>
    have hne : k ≠ customKey := by
      rintro rfl
      exact hk (by decide)
    exact get?_under ho hne

/-- The objects of options are merged one by one. -/
theorem listedOption?_under (ho : top.keys.Nodup) :
    (base.under top).listedOption? k = (top.listedOption? k).or (base.listedOption? k) := by
  rw [listedOption?, listedOption?, listedOption?]
  cases hover : top.options? with
  | some options =>
    have hoptions : options.keys.Nodup := by
      have hn : (top.options?.getD []).keys.Nodup := nodup_keys_options
      rw [hover] at hn
      exact hn
    have hmerged : ((base.options?.getD []).merge options).keys.Nodup :=
      Entries.nodup_keys_merge nodup_keys_options options
    rw [under, hover, options?]
    dsimp only
    rw [Entries.get?_set_self]
    change (Entries.ofList ((base.options?.getD []).merge options)).get? k = _
    rw [Entries.get?_ofList hmerged, Entries.get?_merge hoptions, Option.getD_some]
  | none =>
    rw [under, hover, options?]
    dsimp only
    rw [Entries.get?_merge (Entries.nodup_keys_erase ho _), Entries.get?_erase, if_pos rfl,
      Option.none_or, Option.getD_none, Entries.get?_nil, Option.none_or, options?]

end Layer

namespace Settings

/-- The settings but for the options, by key. -/
def fields : List (String × (Settings → Json)) := [
  ("package_name", (·.packageName)), ("with_inheritance", (·.withInheritance)),
  ("meta_prefix", (·.metaPrefix)), ("provided_types_file", (·.providedTypesFile)),
  ("indent_size", (·.indentSize)), ("add_comments", (·.addComments))]

/-! ## A merged layer -/

/-- A setting has the value of its key, or else its standard one. -/
theorem field_ofLayer {e : String × (Settings → Json)} (he : e ∈ fields) :
    e.2 (ofLayer l) = (l.get? e.1).getD (e.2 {}) := by
  rw [fields] at he
  simp only [List.mem_cons, List.not_mem_nil, or_false] at he
  rcases he with rfl | rfl | rfl | rfl | rfl | rfl <;> rfl

/-- An option of a merged layer has the value that the layer gives it. -/
theorem custom_ofLayer (hl : l.keys.Nodup) : (ofLayer l).custom.get? k = l.option? k := by
  have htop : Entries.get? (l.filter fun e => !keys.contains e.1) k = l.topOption? k := by
    rw [Entries.get?_filter (fun k => !keys.contains k), Layer.topOption?]
    by_cases hk : k ∈ keys
    · rw [if_neg (by simpa using hk), if_pos hk]
    · rw [if_pos (by simpa using hk), if_neg hk]
  have hcustom : (ofLayer l).custom =
      (l.options?.getD []).merge (l.filter fun e => !keys.contains e.1) := rfl
  rw [hcustom, Entries.get?_merge (Entries.nodup_keys_filter hl _), htop, Layer.option?,
    Layer.listedOption?]

/-! ## All layers -/

theorem findSome?_cons_eq_or (get : Layer → Option Json) (l : Layer) (rest : List Layer) :
    (l :: rest).findSome? get = (get l).or (rest.findSome? get) := by
  rw [List.findSome?_cons]
  cases get l <;> rfl

/-- Layers, the highest first, merged above another one. -/
def merged (base : Layer) (above : List Layer) : Layer := above.foldr (fun o b => b.under o) base

theorem nodup_keys_merged {above : List Layer} (hbase : base.keys.Nodup) :
    (merged base above).keys.Nodup := by
  induction above with
  | nil => exact hbase
  | cons o rest ih => exact Layer.nodup_keys_under ih

/-- **Of a value that each layer sets over what is below it, the highest layer that sets it
counts.** -/
theorem findSome?_layers {above : List Layer} (get : Layer → Option Json)
    (hget : ∀ base o : Layer, o.keys.Nodup → get (base.under o) = (get o).or (get base))
    (ha : ∀ o ∈ above, o.keys.Nodup) :
    get (merged base above) = (above ++ [base]).findSome? get := by
  induction above with
  | nil => rw [List.nil_append, findSome?_cons_eq_or, List.findSome?_nil, Option.or_none, merged,
      List.foldr_nil]
  | cons o rest ih =>
    obtain ⟨ho, hrest⟩ := List.forall_mem_cons.mp ha
    have hstep : merged base (o :: rest) = (merged base rest).under o := rfl
    rw [hstep, hget _ o ho, ih hrest, List.cons_append, findSome?_cons_eq_or]

/-- **Keys of their own count before all objects of options**, each of the two by the highest
layer. -/
theorem option?_merged {above : List Layer} (ha : ∀ o ∈ above, o.keys.Nodup) :
    (merged base above).option? k =
      ((above ++ [base]).findSome? (·.topOption? k)).or
        ((above ++ [base]).findSome? (·.listedOption? k)) := by
  rw [Layer.option?]
  rw [findSome?_layers (·.topOption? k) (fun _ _ => Layer.topOption?_under) ha]
  rw [findSome?_layers (·.listedOption? k) (fun _ _ => Layer.listedOption?_under) ha]

/-- A merged layer sets the options that some layer sets. -/
theorem isSome_option?_merged_iff {above : List Layer} (ha : ∀ o ∈ above, o.keys.Nodup) :
    ((merged base above).option? k).isSome = true ↔
      ∃ l ∈ above ++ [base], (l.option? k).isSome = true := by
  rw [option?_merged ha, Option.isSome_or, Bool.or_eq_true, List.findSome?_isSome_iff,
    List.findSome?_isSome_iff, ← exists_or]
  refine exists_congr fun l => ?_
  rw [← and_or_left, Layer.option?, Option.isSome_or, Bool.or_eq_true]

end Settings
end ClassModel
