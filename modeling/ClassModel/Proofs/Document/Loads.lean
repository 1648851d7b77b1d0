import ClassModel.Proofs.Document.Building
import Mathlib.Data.List.Perm.Subperm

/-!
# Which documents load

A document of well-shaped components loads exactly if every name that a mapping lists is there and
no component comes back to itself (`load_outcome`). That nothing else stops it is shown by following
a call that fails down to its reason: along the walk every component refers to the next one, so what
the fault says about the last of them is true (`build_truthful`).

The walk is also why the bound on the depth does not matter. A name stands on it once, and a walk
with all names on it has no room for another (`build_succ_eq`).

An interpreter also bounds how deep calls may go. That bound is not modelled: a chain of references
loads here however long it is.
-/

set_option autoImplicit false

namespace ClassModel
namespace Document

variable {raw : Entries Json} {es : List (String × Json)} {depth : Nat} {walk ns : List String}
  {built : Catalog} {n t : String} {e : Fault}

/-! ## The bound is never met -/

/-- Names that stand on a walk once each, and are there, are at most as many as these. -/
theorem length_le_of_subset_keys (hn : walk.Nodup) (hs : walk ⊆ raw.keys) :
    walk.length ≤ raw.length := by
  have hle := (hn.subperm hs).length_le
  rwa [Entries.keys, List.length_map] at hle

/-- **One more step changes nothing**, once there is room for all names. -/
theorem build_succ_eq (hn : walk.Nodup) (hs : walk ⊆ raw.keys)
    (hd : raw.length < depth + walk.length) :
    build raw (depth + 1) walk = build raw depth walk := by
  induction depth generalizing walk with
  | zero =>
    have hle := length_le_of_subset_keys hn hs
    omega
  | succ depth ih =>
    funext built j
    cases j with
    | str n =>
      by_cases hw : n ∈ walk
      · by_cases hb : n ∈ built.keys
        · rw [build_of_built hb, build_of_built hb]
        · rw [build_of_waiting hb hw, build_of_waiting hb hw]
      cases hraw : raw.get? n with
      | none => rw [build, build, hraw]
      | some j =>
        have hn' : (walk ++ [n]).Nodup := nodup_snoc hn hw
        have hs' : walk ++ [n] ⊆ raw.keys :=
          List.append_subset.mpr ⟨hs, by simpa using Entries.mem_keys_of_get? hraw⟩
        have hd' : raw.length < depth + (walk ++ [n]).length := by
          rw [List.length_append, List.length_singleton]
          omega
        rw [build, build, hraw, ih hn' hs' hd']
    | _ => rw [build, build] <;> exact fun _ h => by cases h

/-- **The bound is never met**: every greater one builds the same. -/
theorem build_eq_of_lt (h : raw.length < depth) :
    build raw depth [] = build raw (raw.length + 1) [] := by
  induction h with
  | refl => rfl
  | @step depth hlt ih =>
    have hlt' : raw.length < depth := hlt
    rw [build_succ_eq List.nodup_nil (List.nil_subset _) (by simpa using hlt'), ih]

/-! ## What a fault says is true -/

/-- What a fault says about references is true of the document. -/
inductive Truthful (raw : Entries Json) : Fault → Prop
  | unknown {source target : String} : Refers raw source target → target ∉ raw.keys →
      Truthful raw (.unknownReference source target)
  | cyclic {earlier : List String} {n : String} : (earlier ++ [n]).IsChain (Refers raw) →
      n ∈ earlier → Truthful raw (.cyclicReference (earlier ++ [n]))

/-- The walk along references, without repeats, that asks for a component; at its start the
document itself asks. -/
structure Asks (raw : Entries Json) (walk : List String) (t : String) : Prop where
  chain : (walk ++ [t]).IsChain (Refers raw)
  distinct : walk.Nodup
  top : walk = [] → t ∈ raw.keys

theorem Asks.subset_keys (h : Asks raw walk t) : walk ⊆ raw.keys := by
  intro n hn
  obtain ⟨m, hnm, _⟩ := Relation.TransGen.head'_iff.mp (transGen_of_isChain h.chain hn)
  exact hnm.mem_keys

/-- The component that is asked for asks for its targets. -/
theorem Asks.next {next : String} (h : Asks raw walk t) (hw : t ∉ walk) (hr : Refers raw t next) :
    Asks raw (walk ++ [t]) next where
  chain := isChain_snoc h.chain hr
  distinct := nodup_snoc h.distinct hw
  top := fun hnil => absurd hnil (by simp)

/-- A name that is not there is asked for by the last component of the walk. -/
theorem Asks.truthful_unknown (h : Asks raw walk t) (ht : t ∉ raw.keys) :
    Truthful raw (unknownTarget walk t) := by
  rw [unknownTarget]
  cases hlast : walk.getLast? with
  | none => exact absurd (h.top (List.getLast?_eq_none_iff.mp hlast)) ht
  | some source =>
    have hr : Refers raw source t := (List.isChain_append.mp h.chain).2.2 source hlast t rfl
    exact .unknown hr ht

/-- A list of names stops at one of them. -/
theorem exists_build_error (h : buildNames raw depth walk built ns = .error e) :
    ∃ n ∈ ns, ∃ built, build raw depth walk built (.str n) = .error e := by
  induction ns generalizing built with
  | nil => cases h
  | cons m rest ih =>
    rw [buildNames] at h
    split at h
    · next e' hm =>
      cases h
      exact ⟨m, List.mem_cons_self, built, hm⟩
    · next mid _ =>
      obtain ⟨n, hn, hbuild⟩ := ih h
      exact ⟨n, List.mem_cons_of_mem _ hn, hbuild⟩

/-- **A call that fails gives a true reason**, in a document of well-shaped components. -/
theorem build_truthful (hs : WellShaped raw) (ha : Asks raw walk t)
    (hd : raw.length < depth + walk.length)
    (h : build raw depth walk built (.str t) = .error e) : Truthful raw e := by
  induction depth generalizing walk t built with
  | zero =>
    have hle := length_le_of_subset_keys ha.distinct ha.subset_keys
    omega
  | succ depth ih =>
    by_cases hb : t ∈ built.keys
    · rw [build_of_built hb] at h
      cases h
    by_cases hw : t ∈ walk
    · rw [build_of_waiting hb hw] at h
      cases h
      exact .cyclic ha.chain hw
    cases hraw : raw.get? t with
    | none =>
      rw [build_of_unknown hb hw hraw] at h
      cases h
      exact ha.truthful_unknown (Entries.notMem_keys_of_get? hraw)
    | some j =>
      obtain ⟨es, rfl, hshape⟩ := hs t j hraw
      obtain ⟨c, hc⟩ := exists_givesComponent_iff.mpr hshape
      rw [build_of_gives hb hw hraw hc] at h
      split at h
      · next e' hmid =>
        cases h
        obtain ⟨next, hnext, built, hfail⟩ := exists_build_error hmid
        have hask : Asks raw (walk ++ [t]) next := ha.next hw ((hc.refers_iff hraw).mpr hnext)
        refine ih hask ?_ hfail
        rw [List.length_append, List.length_singleton]
        omega
      · cases h

/-- A fault that is true breaks a rule for references. -/
theorem Truthful.not_known_and_acyclic (h : Truthful raw e) : ¬ (Known raw ∧ Acyclic raw) := by
  rintro ⟨hknown, hacyclic⟩
  cases h with
  | unknown hr ht => exact ht (hknown _ _ hr)
  | cyclic hchain hn => exact hacyclic _ (transGen_of_isChain hchain hn)

/-- A document of well-shaped components loads, or stops for a true reason. -/
theorem load_ok_or_truthful {document : Json} (hdoc : components? document = some raw)
    (hs : WellShaped raw) :
    (∃ catalog, load document = .ok catalog) ∨
      ∃ e, load document = .error e ∧ Truthful raw e := by
  rw [load_eq hdoc]
  cases hbuilt : buildNames raw (raw.length + 1) [] [] raw.keys with
  | ok built => exact Or.inl ⟨_, rfl⟩
  | error e =>
    obtain ⟨n, hn, built, hfail⟩ := exists_build_error hbuilt
    have hask : Asks raw [] n := ⟨List.isChain_singleton _, List.nodup_nil, fun _ => hn⟩
    exact Or.inr ⟨e, rfl, build_truthful hs hask (Nat.lt_succ_self _) hfail⟩

/-- **A document of well-shaped components loads exactly if it follows the rules for
references.** -/
theorem exists_load_iff {document : Json} (hdoc : components? document = some raw)
    (hs : WellShaped raw) : (∃ catalog, load document = .ok catalog) ↔ Known raw ∧ Acyclic raw := by
  constructor
  · rintro ⟨catalog, h⟩
    obtain ⟨raw', built, hdoc', hsound, hall, _⟩ := exists_built_of_load h
    rw [hdoc] at hdoc'
    cases hdoc'
    exact hsound.known_and_acyclic hall
  · intro hrules
    rcases load_ok_or_truthful hdoc hs with hok | ⟨e, _, htrue⟩
    · exact hok
    · exact absurd hrules htrue.not_known_and_acyclic

/-- **Which documents load.** Whatever the depth that there is room for, a document of well-shaped
components loads exactly if every name that a mapping lists is there and no component comes back to
itself. Otherwise the message names a reference to a component that is not there, or spells a walk
along references to a component that stands on it before. -/
theorem load_outcome {document : Json} (hdoc : components? document = some raw)
    (hs : WellShaped raw) :
    (∀ depth, raw.length < depth → build raw depth [] = build raw (raw.length + 1) []) ∧
    ((∃ catalog, load document = .ok catalog) ↔ Known raw ∧ Acyclic raw) ∧
    ∀ e, load document = .error e →
      (∃ source target, e = .unknownReference source target ∧
        e.message = s!"Component '{source}' references unknown component '{target}'" ∧
        source ∈ raw.keys ∧ Refers raw source target ∧ target ∉ raw.keys) ∨
      ∃ earlier n, e = .cyclicReference (earlier ++ [n]) ∧
        e.message = "Cyclic discriminator mapping: " ++ " -> ".intercalate (earlier ++ [n]) ∧
        (earlier ++ [n]).IsChain (Refers raw) ∧ n ∈ earlier := by
  refine ⟨fun depth => build_eq_of_lt, exists_load_iff hdoc hs, fun e he => ?_⟩
  rcases load_ok_or_truthful hdoc hs with ⟨catalog, hok⟩ | ⟨e', he', htrue⟩
  · rw [he] at hok
    cases hok
  · rw [he] at he'
    cases he'
    cases htrue with
    | unknown hr ht => exact Or.inl ⟨_, _, rfl, rfl, hr.mem_keys, hr, ht⟩
    | cyclic hchain hn => exact Or.inr ⟨_, _, rfl, rfl, hchain, hn⟩

end Document

/-! ## Two unions that list each other -/

namespace Ring

/-- The entries of a union that lists one variant. -/
def entries (variant : String) : List (String × Json) := [
  ("fields", .obj [("kind", .obj [("qualifier", .str "kotlin.String")])]),
  ("discriminator", .obj [("field", .str "kind"), ("mapping", .obj [("OTHER", .str variant)])])]

def raw : Entries Json := [("Left", .obj (entries "Right")), ("Right", .obj (entries "Left"))]

def document : Json := .obj [("components", .obj raw)]

theorem isComponent_entries (variant : String) : Document.IsComponent (entries variant) where
  fields := by
    refine ⟨_, rfl, fun e he => ?_⟩
    obtain rfl := List.mem_singleton.mp he
    have hliterals : (Json.arr []) = .arr (([] : List String).map .str) := rfl
    exact ⟨_, .object (.object rfl (.items .nil)) hliterals⟩
  discriminator := by
    intro j hj
    cases hj
    refine ⟨_, _, _, rfl, rfl, rfl, fun e he => ?_⟩
    obtain rfl := List.mem_singleton.mp he
    exact ⟨variant, rfl⟩

theorem wellShaped_raw : Document.WellShaped raw := by
  intro n j h
  have hkeys : raw.keys.Nodup := by decide
  have hm := (Entries.get?_eq_some_iff hkeys).mp h
  rcases List.mem_cons.mp hm with hm | hm
  · cases hm
    exact ⟨_, rfl, isComponent_entries _⟩
  · cases List.mem_singleton.mp hm
    exact ⟨_, rfl, isComponent_entries _⟩

end Ring

/-- The two unions do not load, and the message goes once around. -/
theorem Ring.stops :
    Document.WellShaped Ring.raw ∧ ¬ (Document.Known Ring.raw ∧ Document.Acyclic Ring.raw) ∧
    ∃ e, Document.load Ring.document = .error e ∧
      e.message = "Cyclic discriminator mapping: Left -> Right -> Left" := by
  have hdoc : Document.components? Ring.document = some Ring.raw := rfl
  obtain ⟨_, hloads, _⟩ := Document.load_outcome hdoc Ring.wellShaped_raw
  refine ⟨Ring.wellShaped_raw, fun hrules => ?_, _, rfl, rfl⟩
  obtain ⟨catalog, hok⟩ := hloads.mpr hrules
  cases hok

end ClassModel
