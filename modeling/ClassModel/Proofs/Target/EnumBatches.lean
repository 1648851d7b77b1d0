import ClassModel.Proofs.Compile.FirstByName
import ClassModel.Proofs.Target.EnumTable
import Mathlib.Data.List.Induction

/-!
# Batches of enumerations

A table is filled by batches of fields, each of which may raise; the table is used on afterwards
with what the batch has added before. A batch raises exactly if one of its enumerations has a name
that is taken by other literals, in the table or earlier in the batch (`Collects`). What it adds are
the new names, each with its first enumeration, at the end (`extend`). So entries stay what they are
and where they are, whatever batches follow.
-/

set_option autoImplicit false

namespace ClassModel
namespace EnumTable

variable {t t' : EnumTable} {f : ResolvedField} {fs : List ResolvedField} {e x : EnumClass}
  {es es' : List EnumClass}

/-- The enumerations of fields, in order, repeats kept. -/
def enumsOf (fs : List ResolvedField) : List EnumClass := fs.filterMap (·.enum)

theorem enumsOf_cons : enumsOf (f :: fs) = enumsOf [f] ++ enumsOf fs :=
  List.filterMap_append (l := [f])

theorem mem_enumsOf : e ∈ enumsOf fs ↔ ∃ f ∈ fs, f.enum = some e := List.mem_filterMap

/-- The table with the enumerations of new names at the end, the first one of each name. -/
def extend (t : EnumTable) (es : List EnumClass) : EnumTable :=
  t ++ (firstByName EnumClass.name (Entries.keys t) es).map fun e => (e.name, e)

@[simp] theorem extend_nil : t.extend [] = t := List.append_nil t

theorem keys_extend : Entries.keys (t.extend es) =
    Entries.keys t ++ (firstByName EnumClass.name (Entries.keys t) es).map (·.name) := by
  unfold extend Entries.keys
  rw [List.map_append, List.map_map]
  rfl

theorem extend_append : t.extend (es ++ es') = (t.extend es).extend es' := by
  have hkeys : ∀ n, n ∈ Entries.keys (t.extend es) ↔
      n ∈ Entries.keys t ++ es.map (·.name) := by
    intro n
    rw [keys_extend, map_firstByName]
    exact mem_firstByName_iff
  unfold extend
  rw [firstByName_append, List.map_append, ← List.append_assoc]
  congr 2
  exact (firstByName_congr hkeys).symm

/-- Extending a table keeps it keyed. -/
theorem Keyed.extend (ht : t.Keyed) (es : List EnumClass) : (t.extend es).Keyed := by
  constructor
  · intro p hp
    rcases List.mem_append.mp hp with hp | hp
    · exact ht.key_eq p hp
    · obtain ⟨e, _, rfl⟩ := List.mem_map.mp hp
      rfl
  · rw [keys_extend, List.nodup_append']
    refine ⟨ht.nodup, nodup_firstByName, ?_⟩
    intro n hn hm
    obtain ⟨e, he, rfl⟩ := List.mem_map.mp hm
    exact notMem_of_mem_firstByName he hn

/-- An enumeration of a keyed table is what its name stands for. -/
theorem Keyed.get?_of_mem (ht : t.Keyed) (hx : x ∈ t.classes) :
    Entries.get? t x.name = some x := by
  obtain ⟨p, hp, rfl⟩ := List.mem_map.mp hx
  rw [Entries.get?_eq_some_iff ht.nodup, ← ht.key_eq p hp]
  exact hp

theorem Keyed.of_get? (ht : t.Keyed) {n : String} (h : Entries.get? t n = some x) :
    x ∈ t.classes ∧ x.name = n := by
  have hmem := (Entries.get?_eq_some_iff ht.nodup).mp h
  exact ⟨List.mem_map_of_mem hmem, (ht.key_eq _ hmem).symm⟩

/-! ## Conflicts -/

theorem eq_of_literals_eq {taken : EnumClass} (hname : taken.name = e.name)
    (h : taken.literals = e.literals) : taken = e := by
  cases taken
  cases e
  cases hname
  cases h
  rfl

/-- The field has the enumeration `e`, whose name the enumeration `taken`, one of those that are
known, has with other literals. -/
structure Conflicts (known : List EnumClass) (f : ResolvedField) (taken e : EnumClass) : Prop where
  enum : f.enum = some e
  known : taken ∈ known
  name_eq : taken.name = e.name
  literals_ne : taken.literals ≠ e.literals

/-- A field of the batch has an enumeration whose name is taken by other literals, in the table or
earlier in the batch. -/
def Clash (t : EnumTable) (fs : List ResolvedField) : Prop :=
  ∃ before f after taken e, fs = before ++ f :: after ∧
    Conflicts (t.classes ++ enumsOf before) f taken e

theorem not_clash_nil : ¬ Clash t [] := by
  intro h
  obtain ⟨before, _, _, _, _, hsplit, _⟩ := h
  cases before <;> cases hsplit

/-- From an empty table, two enumerations of one name clash if their literals differ, in whatever
order they come. -/
theorem clash_nil_iff : Clash [] fs ↔
    ∃ e ∈ enumsOf fs, ∃ e' ∈ enumsOf fs, e.name = e'.name ∧ e.literals ≠ e'.literals := by
  constructor
  · intro h
    obtain ⟨before, f, after, taken, e, rfl, hf, hknown, hname, hne⟩ := h
    refine ⟨taken, ?_, e, ?_, hname, hne⟩
    · obtain ⟨g, hg, hge⟩ := mem_enumsOf.mp hknown
      exact mem_enumsOf.mpr ⟨g, List.mem_append_left _ hg, hge⟩
    · exact mem_enumsOf.mpr ⟨f, by simp, hf⟩
  · intro h
    obtain ⟨e, he, e', he', hname, hne⟩ := h
    obtain ⟨f, hf, hfe⟩ := mem_enumsOf.mp he
    obtain ⟨g, hg, hge⟩ := mem_enumsOf.mp he'
    obtain ⟨before, after, rfl⟩ := List.append_of_mem hf
    rcases List.mem_append.mp hg with hg | hg
    · exact ⟨before, f, after, e', e, rfl, hfe, mem_enumsOf.mpr ⟨g, hg, hge⟩, hname.symm, hne.symm⟩
    · rcases List.mem_cons.mp hg with rfl | hg
      · rw [hfe] at hge
        cases hge
        exact absurd rfl hne
      · obtain ⟨mid, rest, rfl⟩ := List.append_of_mem hg
        refine ⟨before ++ f :: mid, g, rest, e, e', by simp, hge, ?_, hname, hne⟩
        exact mem_enumsOf.mpr ⟨f, by simp, hfe⟩

/-! ## One field -/

/-- Adding the field to `t` gives `t'`: nothing that is known conflicts with it, and its enumeration
is known afterwards. -/
structure Absorbs (t : EnumTable) (f : ResolvedField) (t' : EnumTable) : Prop where
  table_eq : t' = t.extend (enumsOf [f])
  mem_iff : ∀ x, x ∈ t'.classes ↔ x ∈ t.classes ++ enumsOf [f]
  fits : ∀ taken e, ¬ Conflicts t.classes f taken e

/-- **One field** is absorbed, or its enumeration conflicts with one of the table. -/
theorem add_cases (ht : t.Keyed) (f : ResolvedField) :
    (∃ t', t.add f = .ok t' ∧ Absorbs t f t') ∨
      ∃ taken e, Conflicts t.classes f taken e ∧
        t.add f = .error (.conflictingEnum f.name taken e) := by
  unfold add
  cases hf : f.enum with
  | none =>
    have henums : enumsOf [f] = [] := by simp [enumsOf, hf]
    refine Or.inl ⟨t, rfl, ?_, ?_, ?_⟩
    · rw [henums, extend_nil]
    · simp [henums]
    · intro taken e h
      have he := h.enum
      rw [hf] at he
      cases he
  | some e =>
    have henums : enumsOf [f] = [e] := by simp [enumsOf, hf]
    -- What conflicts with the field is what the table has under the name.
    have hconflict : ∀ taken e', Conflicts t.classes f taken e' →
        e' = e ∧ Entries.get? t e.name = some taken := by
      intro taken e' h
      have he := h.enum
      rw [hf] at he
      cases he
      refine ⟨rfl, ?_⟩
      rw [← h.name_eq]
      exact ht.get?_of_mem h.known
    cases hg : Entries.get? t e.name with
    | none =>
      simp only [hg]
      refine Or.inl ⟨_, rfl, ?_, ?_, ?_⟩
      · rw [henums, extend, firstByName_cons_of_notMem (Entries.notMem_keys_of_get? hg)]
        rfl
      · simp [henums, classes]
      · intro taken e' h
        obtain ⟨_, hget⟩ := hconflict taken e' h
        rw [hg] at hget
        cases hget
    | some taken =>
      obtain ⟨hmem, hname⟩ := ht.of_get? hg
      simp only [hg]
      by_cases heq : taken = e
      · subst heq
        refine Or.inl ⟨t, by simp, ?_, ?_, ?_⟩
        · rw [henums, extend, firstByName_cons_of_mem (Entries.mem_keys_of_get? hg)]
          simp [firstByName]
        · intro x
          rw [henums, List.mem_append, List.mem_singleton]
          constructor
          · exact Or.inl
          · intro hx
            rcases hx with hx | rfl
            · exact hx
            · exact hmem
        · intro other e' h
          obtain ⟨rfl, hget⟩ := hconflict other e' h
          rw [hg] at hget
          cases hget
          exact h.literals_ne rfl
      · refine Or.inr ⟨taken, e, ⟨hf, hmem, hname, ?_⟩, by simp [heq]⟩
        intro hliterals
        exact heq (eq_of_literals_eq hname hliterals)

theorem Conflicts.congr {known known' : List EnumClass} {taken : EnumClass}
    (h : ∀ x, x ∈ known ↔ x ∈ known') : Conflicts known f taken e ↔ Conflicts known' f taken e := by
  constructor
  · intro hc
    exact ⟨hc.enum, (h _).mp hc.known, hc.name_eq, hc.literals_ne⟩
  · intro hc
    exact ⟨hc.enum, (h _).mpr hc.known, hc.name_eq, hc.literals_ne⟩

theorem Absorbs.mem_append_iff (h : Absorbs t f t') (es : List EnumClass) (x : EnumClass) :
    x ∈ t'.classes ++ es ↔ x ∈ t.classes ++ (enumsOf [f] ++ es) := by
  rw [← List.append_assoc, List.mem_append, List.mem_append, h.mem_iff]

/-- A batch clashes exactly if its rest does, once the first field has been absorbed. -/
theorem Absorbs.clash_iff (h : Absorbs t f t') : Clash t (f :: fs) ↔ Clash t' fs := by
  constructor
  · intro hc
    obtain ⟨before, g, after, taken, e, hsplit, hg⟩ := hc
    cases before with
    | nil =>
      cases hsplit
      rw [enumsOf, List.filterMap_nil, List.append_nil] at hg
      exact absurd hg (h.fits taken e)
    | cons f' before =>
      cases hsplit
      refine ⟨before, g, after, taken, e, rfl, ?_⟩
      rw [enumsOf_cons] at hg
      exact (Conflicts.congr (h.mem_append_iff _)).mpr hg
  · intro hc
    obtain ⟨before, g, after, taken, e, rfl, hg⟩ := hc
    refine ⟨f :: before, g, after, taken, e, rfl, ?_⟩
    rw [enumsOf_cons]
    exact (Conflicts.congr (h.mem_append_iff _)).mp hg

/-! ## One batch -/

/-- What is left of a batch: all of it has been added, or what comes before the first field that
conflicts, which is reported with the enumeration that came first. -/
inductive Collects (t : EnumTable) (fs : List ResolvedField) :
    EnumTable × Option SchemaFault → Prop
  | all : ¬ Clash t fs → Collects t fs (t.extend (enumsOf fs), none)
  | stops {before after : List ResolvedField} {f : ResolvedField} {taken e : EnumClass} :
      fs = before ++ f :: after → ¬ Clash t before →
      Conflicts (t.classes ++ enumsOf before) f taken e →
      Collects t fs (t.extend (enumsOf before), some (.conflictingEnum f.name taken e))

/-- **What a batch does.** -/
theorem collects_collect (ht : t.Keyed) : Collects t fs (t.collect fs) := by
  induction fs generalizing t with
  | nil =>
    have h : Collects t [] (t.extend (enumsOf []), none) := .all not_clash_nil
    rwa [enumsOf, List.filterMap_nil, extend_nil] at h
  | cons f rest ih =>
    rw [collect]
    rcases add_cases ht f with ⟨t', hadd, habsorbs⟩ | ⟨taken, e, hconflict, hadd⟩
    · rw [hadd]
      have ht' : t'.Keyed := (add_spec hadd ht).1
      have hextend : ∀ fs, t'.extend (enumsOf fs) = t.extend (enumsOf (f :: fs)) := by
        intro fs
        rw [enumsOf_cons, extend_append, habsorbs.table_eq]
      show Collects t (f :: rest) (t'.collect rest)
      have hrest := ih ht'
      generalize t'.collect rest = result at hrest
      cases hrest with
      | all hnot =>
        rw [hextend]
        exact .all fun hc => hnot (habsorbs.clash_iff.mp hc)
      | @stops before after g taken e hsplit hnot hg =>
        rw [hextend]
        have hsplit' : f :: rest = (f :: before) ++ g :: after := by rw [hsplit, List.cons_append]
        refine .stops hsplit' ?_ ?_
        · intro hc
          exact hnot (habsorbs.clash_iff.mp hc)
        · rw [enumsOf_cons]
          exact (Conflicts.congr (habsorbs.mem_append_iff _)).mp hg
    · rw [hadd]
      have hknown : Conflicts (t.classes ++ enumsOf []) f taken e := by
        rwa [enumsOf, List.filterMap_nil, List.append_nil]
      have hsplit : f :: rest = [] ++ f :: rest := rfl
      have h := Collects.stops hsplit not_clash_nil hknown
      rwa [enumsOf, List.filterMap_nil, extend_nil] at h

namespace Collects

variable {result : EnumTable × Option SchemaFault}

theorem keyed (h : Collects t fs result) (ht : t.Keyed) : result.1.Keyed := by
  cases h with
  | all _ => exact ht.extend _
  | stops _ _ _ => exact ht.extend _

/-- A batch raises exactly if it clashes. -/
theorem isSome_iff (h : Collects t fs result) : result.2.isSome = true ↔ Clash t fs := by
  cases h with
  | all hnot => simp [hnot]
  | stops hsplit _ hconflict =>
    refine iff_of_true rfl ?_
    exact ⟨_, _, _, _, _, hsplit, hconflict⟩

end Collects

/-! ## All batches -/

/-- The table after some batches, each of which may have raised. -/
def afterBatches (batches : List (List ResolvedField)) : EnumTable :=
  batches.foldl (fun t fs => (t.collect fs).1) []

theorem afterBatches_append_singleton (batches : List (List ResolvedField))
    (fs : List ResolvedField) :
    afterBatches (batches ++ [fs]) = ((afterBatches batches).collect fs).1 := by
  simp [afterBatches]

/-- After any batches the table is keyed. -/
theorem keyed_afterBatches (batches : List (List ResolvedField)) :
    (afterBatches batches).Keyed := by
  induction batches using List.reverseRecOn with
  | nil => exact keyed_nil
  | append_singleton batches fs ih =>
    rw [afterBatches_append_singleton]
    exact (collects_collect ih).keyed ih

end EnumTable
end ClassModel
