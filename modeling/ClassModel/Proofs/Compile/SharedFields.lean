import ClassModel.Proofs.Compile.CommonFields
import Mathlib.Data.List.Perm.Basic

/-!
# The shared fields of several components, exactly

Gathering takes the fields of common names leaf after leaf. What it takes from the first leaf is
new, since no leaf lists a name twice; what comes from the others is known, since a common name
occurs in the first leaf. So the first leaf decides which fields are shared, in which order and in
which shape, and every other leaf can only agree with it or be the first one that does not
(`commonFields_cases`).

Whether all leaves agree does not depend on their order, nor do the names and shapes that they
share (`mem_signatures_iff`); which of the conflicts is reported does.
-/

set_option autoImplicit false

namespace ClassModel

variable {found fs lead : List ResolvedField} {resolved resolved' : List (List ResolvedField)}
  {f first second : ResolvedField}

/-- A field with only its abstract flag set. -/
def ResolvedField.lifted (f : ResolvedField) : ResolvedField := { f with isAbstract := true }

@[simp] theorem ResolvedField.name_lifted (f : ResolvedField) : f.lifted.name = f.name := rfl

@[simp] theorem ResolvedField.shape_lifted (f : ResolvedField) : f.lifted.shape = f.shape := rfl

/-- The field has the shape of each of the fields `lead` that has its name. -/
def Fits (lead : List ResolvedField) (f : ResolvedField) : Prop :=
  ∀ g ∈ lead, g.name = f.name → g.shape = f.shape

/-- No two of the fields have one name. -/
def DistinctNames (fs : List ResolvedField) : Prop := (fs.map (·.name)).Nodup

theorem DistinctNames.eq_of_name_eq {f g : ResolvedField} (hn : DistinctNames fs) (hf : f ∈ fs)
    (hg : g ∈ fs) (h : f.name = g.name) : f = g :=
  List.inj_on_of_nodup_map hn hf hg h

theorem DistinctNames.fits (hn : DistinctNames fs) (hf : f ∈ fs) : Fits fs f := by
  intro g hg hname
  rw [hn.eq_of_name_eq hg hf hname]

theorem DistinctNames.fits_iff (hn : DistinctNames fs) (hfirst : first ∈ fs)
    (h : first.name = f.name) : Fits fs f ↔ first.shape = f.shape := by
  constructor
  · intro hfits
    exact hfits first hfirst h
  · intro hs g hg hname
    rw [hn.eq_of_name_eq hg hfirst (hname.trans h.symm), hs]

/-! ## Gathering new names and known ones -/

/-- Fields with new names are put at the end. -/
theorem gatherCommon_append_of_new (hn : DistinctNames (found ++ fs)) (rest : List ResolvedField) :
    gatherCommon found (fs ++ rest) = gatherCommon (found ++ fs.map (·.lifted)) rest := by
  induction fs generalizing found with
  | nil => simp
  | cons f fs ih =>
    have hnew : found.find? (·.name = f.name) = none := by
      rw [List.find?_eq_none]
      intro g hg
      have hne := (List.pairwise_append.mp (List.pairwise_map.mp hn)).2.2 g hg f (by simp)
      simpa using hne
    have hn' : DistinctNames (found ++ [f.lifted] ++ fs) := by
      unfold DistinctNames at hn ⊢
      simpa using hn
    rw [List.cons_append, gatherCommon, hnew]
    show gatherCommon (found ++ [f.lifted]) (fs ++ rest) = _
    rw [ih hn', List.map_cons, List.append_assoc, List.singleton_append]

/-- Fields with known names leave everything as it was, up to the first that does not fit. -/
theorem gatherCommon_of_known (hn : DistinctNames found)
    (hk : ∀ f ∈ fs, ∃ g ∈ found, g.name = f.name) :
    ((∀ f ∈ fs, Fits found f) ∧ gatherCommon found fs = .ok found) ∨
      ∃ first ∈ found, ∃ second, first.name = second.name ∧ first.shape ≠ second.shape ∧
        FirstAt (Fits found) (fun _ f => f = second) fs ∧
        gatherCommon found fs = .error (.conflictingField first second) := by
  induction fs with
  | nil => exact Or.inl ⟨by simp, rfl⟩
  | cons f rest ih =>
    obtain ⟨⟨g, hg, hgname⟩, hrest⟩ := List.forall_mem_cons.mp hk
    obtain ⟨first, hfind⟩ : ∃ first, found.find? (·.name = f.name) = some first := by
      rw [← Option.isSome_iff_exists, List.find?_isSome]
      exact ⟨g, hg, by simpa using hgname⟩
    have hfirst : first ∈ found := List.mem_of_find?_eq_some hfind
    have hname : first.name = f.name := by simpa using List.find?_some hfind
    rw [gatherCommon, hfind]
    by_cases hs : first.shape = f.shape
    · have hf : Fits found f := (hn.fits_iff hfirst hname).mpr hs
      simp only [hs, if_true]
      rcases ih hrest with ⟨hall, hok⟩ | ⟨first', hfirst', second, hname', hs', hat, herr⟩
      · exact Or.inl ⟨List.forall_mem_cons.mpr ⟨hf, hall⟩, hok⟩
      · exact Or.inr ⟨first', hfirst', second, hname', hs', firstAt_cons.mpr (Or.inr ⟨hf, hat⟩),
          herr⟩
    · refine Or.inr ⟨first, hfirst, f, hname, hs, firstAt_cons.mpr (Or.inl rfl), ?_⟩
      simp [hs]

/-! ## What the first list decides -/

/-- Every name that occurs in all lists has one shape in all of them. -/
def ShapesAgree (resolved : List (List ResolvedField)) : Prop :=
  ∀ n, (∀ fs ∈ resolved, ∃ f ∈ fs, f.name = n) →
    ∀ fs ∈ resolved, ∀ fs' ∈ resolved, ∀ f ∈ fs, ∀ f' ∈ fs', f.name = n → f'.name = n →
      f.shape = f'.shape

/-- The first of several lists. -/
def leading (resolved : List (List ResolvedField)) : List ResolvedField := resolved.head?.getD []

@[simp] theorem leading_cons {rest : List (List ResolvedField)} :
    leading (lead :: rest) = lead := rfl

/-- The fields of the first list whose names occur in all lists, made abstract. -/
def sharedFields (resolved : List (List ResolvedField)) : List ResolvedField :=
  ((leading resolved).filter fun f => isCommonName resolved f.name).map (·.lifted)

theorem mem_sharedFields {g : ResolvedField} : g ∈ sharedFields resolved ↔
    ∃ g' ∈ leading resolved, isCommonName resolved g'.name = true ∧ g'.lifted = g := by
  simp [sharedFields, and_assoc]

theorem distinctNames_sharedFields (hn : DistinctNames (leading resolved)) :
    DistinctNames (sharedFields resolved) := by
  unfold DistinctNames sharedFields
  rw [List.map_map]
  exact hn.sublist (List.filter_sublist.map _)

/-- For a common name it is the same to fit the first list or what is shared of it. -/
theorem fits_sharedFields_iff (hf : isCommonName resolved f.name = true) :
    Fits (sharedFields resolved) f ↔ Fits (leading resolved) f := by
  constructor
  · intro h g hg hname
    exact h g.lifted (mem_sharedFields.mpr ⟨g, hg, by rw [hname, hf], rfl⟩) hname
  · intro h g hg hname
    obtain ⟨g', hg', _, rfl⟩ := mem_sharedFields.mp hg
    exact h g' hg' hname

section Lists

variable {rest : List (List ResolvedField)}

/-- A common name is shared, since the first list has it too. -/
theorem exists_shared_of_common (hf : isCommonName (lead :: rest) f.name = true) :
    ∃ g ∈ sharedFields (lead :: rest), g.name = f.name := by
  obtain ⟨g, hg, hname⟩ := isCommonName_iff.mp hf lead (by simp)
  exact ⟨g.lifted, mem_sharedFields.mpr ⟨g, hg, by rw [hname, hf], rfl⟩, hname⟩

theorem commonFields_cons (hn : DistinctNames lead) : commonFields (lead :: rest) =
    gatherCommon (sharedFields (lead :: rest))
      (rest.flatten.filter fun f => isCommonName (lead :: rest) f.name) := by
  rw [commonFields, List.flatten_cons, List.filter_append]
  apply gatherCommon_append_of_new
  exact hn.sublist (List.filter_sublist.map _)

/-- Lists agree if all their fields of common names fit the first one. -/
theorem agree_of_fits (h : ∀ fs ∈ lead :: rest, ∀ f ∈ fs,
    isCommonName (lead :: rest) f.name = true → Fits lead f) : ShapesAgree (lead :: rest) := by
  intro n hcommon fs hfs fs' hfs' f hf f' hf' hname hname'
  obtain ⟨g, hg, hgname⟩ := hcommon lead (by simp)
  have hn : isCommonName (lead :: rest) n = true := isCommonName_iff.mpr hcommon
  have hshape : g.shape = f.shape := h fs hfs f hf (by rw [hname, hn]) g hg (by rw [hgname, hname])
  have hshape' : g.shape = f'.shape :=
    h fs' hfs' f' hf' (by rw [hname', hn]) g hg (by rw [hgname, hname'])
  rw [← hshape, hshape']

end Lists

/-! ## The first conflict -/

/-- `second` is the first field, list after list, that has a name which occurs in all lists but not
the shape of the first list's field of that name; `first` is that field, made abstract. -/
structure FirstConflict (resolved : List (List ResolvedField)) (first second : ResolvedField) :
    Prop where
  place : ∃ earlier before after later,
    resolved = earlier ++ (before ++ second :: after) :: later ∧
    ∀ f ∈ earlier.flatten ++ before, isCommonName resolved f.name = true →
      Fits (leading resolved) f
  common : ∀ fs ∈ resolved, ∃ f ∈ fs, f.name = second.name
  first_eq : ∃ g ∈ leading resolved, g.name = second.name ∧ g.shape ≠ second.shape ∧
    first = g.lifted

theorem FirstConflict.not_agree (h : FirstConflict resolved first second) :
    ¬ ShapesAgree resolved := by
  obtain ⟨⟨earlier, before, after, later, hsplit, _⟩, hcommon, g, hg, hname, hs, _⟩ := h
  intro hagree
  cases resolved with
  | nil => cases hg
  | cons lead rest =>
    have hsecond : before ++ second :: after ∈ lead :: rest := by simp [hsplit]
    exact hs (hagree second.name hcommon lead (by simp) _ hsecond g hg second (by simp) hname rfl)

/-- An item of a flattened list stands in one of the lists. -/
theorem exists_split_of_flatten {α : Type} {lists : List (List α)} {before after : List α} {a : α}
    (h : lists.flatten = before ++ a :: after) :
    ∃ earlier before' after' later, lists = earlier ++ (before' ++ a :: after') :: later ∧
      before = earlier.flatten ++ before' := by
  induction lists generalizing before with
  | nil => simp at h
  | cons l rest ih =>
    rw [List.flatten_cons] at h
    rcases List.append_eq_append_iff.mp h with ⟨m, hbefore, hrest⟩ | ⟨m, hl, hrest⟩
    · obtain ⟨earlier, before', after', later, hlists, hm⟩ := ih hrest
      refine ⟨l :: earlier, before', after', later, by rw [hlists]; rfl, ?_⟩
      rw [hbefore, hm, List.flatten_cons, List.append_assoc]
    · cases m with
      | nil =>
        -- The first list ends right before the item, which stands in one of the others.
        rw [List.nil_append] at hrest
        obtain ⟨earlier, before', after', later, hlists, hm⟩ := @ih [] hrest.symm
        refine ⟨l :: earlier, before', after', later, by rw [hlists]; rfl, ?_⟩
        rw [List.flatten_cons, List.append_assoc, ← hm, hl]
        simp
      | cons b m =>
        cases hrest
        exact ⟨[], before, m, rest, by rw [hl]; rfl, rfl⟩

/-- The first field of a common name in the other lists that does not fit is the first of all. -/
theorem firstConflict_of_firstAt {rest : List (List ResolvedField)} (hn : DistinctNames lead)
    {g : ResolvedField} (hg : g ∈ lead) (hname : g.name = second.name)
    (hs : g.shape ≠ second.shape)
    (h : FirstAt (Fits (sharedFields (lead :: rest))) (fun _ f => f = second)
      (rest.flatten.filter fun f => isCommonName (lead :: rest) f.name)) :
    FirstConflict (lead :: rest) g.lifted second := by
  obtain ⟨before, _, after, hsplit, hbefore, rfl⟩ := h
  obtain ⟨pre, post, hflat, hpre, hpost⟩ := List.filter_eq_append_iff.mp hsplit
  obtain ⟨skipped, _, rfl, hskipped, hcommon, _⟩ := List.filter_eq_cons_iff.mp hpost
  rw [← List.append_assoc] at hflat
  obtain ⟨earlier, before', after', later, hrest, hprefix⟩ := exists_split_of_flatten hflat
  refine ⟨⟨lead :: earlier, before', after', later, by rw [hrest]; rfl, ?_⟩,
    isCommonName_iff.mp hcommon, g, hg, hname, hs, rfl⟩
  intro f hf hc
  rw [List.flatten_cons, List.append_assoc, ← hprefix] at hf
  rcases List.mem_append.mp hf with hf | hf
  · exact hn.fits hf
  · rcases List.mem_append.mp hf with hf | hf
    · apply (fits_sharedFields_iff hc).mp
      apply hbefore f
      rw [← hpre]
      exact List.mem_filter.mpr ⟨hf, hc⟩
    · exact absurd hc (hskipped f hf)

/-- **The outcome of sharing.** The lists agree and share what the first one has of the common
names, or the first field that does not fit is reported. -/
theorem commonFields_cases (hn : ∀ fs ∈ resolved, DistinctNames fs) :
    (ShapesAgree resolved ∧ commonFields resolved = .ok (sharedFields resolved)) ∨
      ∃ first second, FirstConflict resolved first second ∧
        commonFields resolved = .error (.conflictingField first second) := by
  cases resolved with
  | nil =>
    refine Or.inl ⟨?_, rfl⟩
    intro _ _ _ hfs
    cases hfs
  | cons lead rest =>
    have hlead : DistinctNames lead := hn lead (by simp)
    have hknown : ∀ f ∈ rest.flatten.filter fun f => isCommonName (lead :: rest) f.name,
        ∃ g ∈ sharedFields (lead :: rest), g.name = f.name := by
      intro f hf
      exact exists_shared_of_common (List.mem_filter.mp hf).2
    -- The first list decides what is shared; each field of the others must fit what it has.
    rw [commonFields_cons hlead]
    have hshared : DistinctNames (sharedFields (lead :: rest)) := distinctNames_sharedFields hlead
    rcases gatherCommon_of_known hshared hknown with
      ⟨hall, hok⟩ | ⟨first, hfirst, second, hname, hs, hat, herr⟩
    · refine Or.inl ⟨agree_of_fits ?_, hok⟩
      intro fs hfs f hf hc
      rcases List.mem_cons.mp hfs with rfl | hfs
      · exact hlead.fits hf
      · apply (fits_sharedFields_iff hc).mp
        apply hall f
        exact List.mem_filter.mpr ⟨List.mem_flatten.mpr ⟨fs, hfs, hf⟩, hc⟩
    · obtain ⟨g, hg, _, rfl⟩ := mem_sharedFields.mp hfirst
      exact Or.inr ⟨_, second, firstConflict_of_firstAt hlead hg hname hs hat, herr⟩

/-! ## Another order of the lists -/

theorem agree_of_perm (hp : resolved'.Perm resolved) :
    ShapesAgree resolved' ↔ ShapesAgree resolved := by
  unfold ShapesAgree
  simp only [hp.mem_iff]

/-- What is shared, without the flags. -/
def signatures (fs : List ResolvedField) : List (String × Shape) :=
  fs.map fun f => (f.name, f.shape)

/-- Where lists agree, the shared names and shapes are those of any field of a common name. -/
theorem mem_signatures_iff (h : ShapesAgree resolved) {sig : String × Shape} :
    sig ∈ signatures (sharedFields resolved) ↔
      (∀ fs ∈ resolved, ∃ f ∈ fs, f.name = sig.1) ∧
        ∃ fs ∈ resolved, ∃ f ∈ fs, (f.name, f.shape) = sig := by
  unfold signatures
  rw [List.mem_map]
  constructor
  · intro hsig
    obtain ⟨g, hg, rfl⟩ := hsig
    obtain ⟨g', hg', hc, rfl⟩ := mem_sharedFields.mp hg
    refine ⟨isCommonName_iff.mp hc, ?_⟩
    cases resolved with
    | nil => cases hg'
    | cons lead rest => exact ⟨lead, by simp, g', hg', rfl⟩
  · intro hsig
    obtain ⟨hcommon, fs, hfs, f, hf, rfl⟩ := hsig
    cases resolved with
    | nil => cases hfs
    | cons lead rest =>
      obtain ⟨g, hg, hname⟩ := hcommon lead (by simp)
      have hshape := h f.name hcommon lead (by simp) fs hfs g hg f hf hname rfl
      have hc : isCommonName (lead :: rest) g.name = true := by
        rw [hname]
        exact isCommonName_iff.mpr hcommon
      refine ⟨g.lifted, mem_sharedFields.mpr ⟨g, hg, hc, rfl⟩, ?_⟩
      rw [ResolvedField.name_lifted, ResolvedField.shape_lifted, hname, hshape]

theorem perm_signatures (h : ShapesAgree resolved) (hn : ∀ fs ∈ resolved, DistinctNames fs)
    (hp : resolved'.Perm resolved) :
    (signatures (sharedFields resolved')).Perm (signatures (sharedFields resolved)) := by
  have hnodup : ∀ lists : List (List ResolvedField), (∀ fs ∈ lists, DistinctNames fs) →
      (signatures (sharedFields lists)).Nodup := by
    intro lists hlists
    have hlead : DistinctNames (leading lists) := by
      cases lists with
      | nil => exact List.nodup_nil
      | cons lead rest => exact hlists lead (by simp)
    apply List.Nodup.of_map Prod.fst
    unfold signatures
    rw [List.map_map]
    exact distinctNames_sharedFields hlead
  rw [List.perm_ext_iff_of_nodup (hnodup _ fun fs hfs => hn fs (hp.mem_iff.mp hfs)) (hnodup _ hn)]
  intro sig
  rw [mem_signatures_iff h, mem_signatures_iff ((agree_of_perm hp).mpr h)]
  simp only [hp.mem_iff]

/-! ## The leaves of a union -/

namespace Compiler

variable {ι : Type} {k : Compiler} {w : Json} {leaves : List (Component ι)}

/-- The fields of the leaves, resolved one after the other. -/
def ResolveTo (k : Compiler) (w : Json) (leaves : List (Component ι))
    (resolved : List (List ResolvedField)) : Prop :=
  List.Forall₂ (fun c rs => k.resolveFields w c.fields = .ok rs) leaves resolved

theorem names_of_traverse {fs : List Field} {rs : List ResolvedField}
    (h : traverse k.resolveField fs = .ok rs) : rs.map (·.name) = fs.map (·.name) := by
  induction traverse_eq_ok_iff.mp h with
  | nil => rfl
  | cons hr hrest ih =>
    rw [List.map_cons, List.map_cons, name_of_resolveField hr, ih (traverse_eq_ok_iff.mpr hrest)]

theorem distinctNames_of_resolveFields {c : Component ι} {rs : List ResolvedField}
    (h : k.resolveFields w c.fields = .ok rs) : DistinctNames rs := by
  unfold DistinctNames
  rw [names_of_traverse (resolveFields_eq_ok_iff.mp h).2]
  exact c.distinct.sublist (List.filter_sublist.map _)

theorem ResolveTo.distinctNames (h : k.ResolveTo w leaves resolved) :
    ∀ fs ∈ resolved, DistinctNames fs := by
  intro fs hfs
  obtain ⟨c, _, hc⟩ := exists_left_of_forall₂ h hfs
  exact distinctNames_of_resolveFields hc

theorem ResolveTo.commonFieldsOf_eq (h : k.ResolveTo w leaves resolved) :
    k.commonFieldsOf w leaves = (commonFields resolved).mapError .schema := by
  unfold commonFieldsOf
  rw [traverse_eq_ok_iff.mpr h]
  dsimp only
  cases commonFields resolved <;> rfl

theorem ResolveTo.cases (h : k.ResolveTo w leaves resolved) :
    (ShapesAgree resolved ∧ k.commonFieldsOf w leaves = .ok (sharedFields resolved)) ∨
      ∃ first second, FirstConflict resolved first second ∧
        k.commonFieldsOf w leaves = .error (.schema (.conflictingField first second)) := by
  rw [h.commonFieldsOf_eq]
  rcases commonFields_cases h.distinctNames with ⟨hagree, hok⟩ | ⟨first, second, hconflict, herr⟩
  · rw [hok]
    exact Or.inl ⟨hagree, rfl⟩
  · rw [herr]
    exact Or.inr ⟨first, second, hconflict, rfl⟩

theorem ResolveTo.eq_ok_iff (h : k.ResolveTo w leaves resolved) {common : List ResolvedField} :
    k.commonFieldsOf w leaves = .ok common ↔
      ShapesAgree resolved ∧ common = sharedFields resolved := by
  rcases h.cases with ⟨hagree, hok⟩ | ⟨first, second, hconflict, herr⟩
  · rw [hok]
    constructor
    · intro heq
      cases heq
      exact ⟨hagree, rfl⟩
    · intro heq
      rw [heq.2]
  · rw [herr]
    exact iff_of_false (by simp) fun hand => hconflict.not_agree hand.1

/-- **The shared fields of leaves.** Taking them succeeds exactly if all leaves agree on the shape
of each name that all of them have. They are then the fields of the first leaf that have such a
name, in its order, with only the abstract flag set; in another order the leaves share the same
names and shapes. Otherwise the first field that disagrees with the first leaf is reported, with the
first leaf's field. -/
theorem commonFieldsOf_exact (h : k.ResolveTo w leaves resolved) :
    ((∃ common, k.commonFieldsOf w leaves = .ok common) ↔ ShapesAgree resolved) ∧
    (∀ common, k.commonFieldsOf w leaves = .ok common →
      common = sharedFields resolved ∧ (common.map (·.name)).Nodup) ∧
    (¬ ShapesAgree resolved → ∃ first second, FirstConflict resolved first second ∧
      k.commonFieldsOf w leaves = .error (.schema (.conflictingField first second)) ∧
      (SchemaFault.conflictingField first second).field = .str second.name) ∧
    (∀ leaves' : List (Component ι), leaves'.Perm leaves →
      ((∃ common, k.commonFieldsOf w leaves' = .ok common) ↔
        ∃ common, k.commonFieldsOf w leaves = .ok common) ∧
      ∀ common common', k.commonFieldsOf w leaves = .ok common →
        k.commonFieldsOf w leaves' = .ok common' →
        (signatures common').Perm (signatures common)) := by
  have hok : ∀ {leaves : List (Component ι)} {resolved}, k.ResolveTo w leaves resolved →
      ((∃ common, k.commonFieldsOf w leaves = .ok common) ↔ ShapesAgree resolved) := by
    intro leaves resolved h
    simp [h.eq_ok_iff]
  refine ⟨hok h, ?_, ?_, ?_⟩
  · intro common hcommon
    obtain ⟨_, rfl⟩ := h.eq_ok_iff.mp hcommon
    refine ⟨rfl, distinctNames_sharedFields ?_⟩
    cases resolved with
    | nil => exact List.nodup_nil
    | cons lead rest => exact h.distinctNames lead (by simp)
  · intro hnot
    rcases h.cases with ⟨hagree, _⟩ | ⟨first, second, hconflict, herr⟩
    · exact absurd hagree hnot
    · exact ⟨first, second, hconflict, herr, rfl⟩
  · intro leaves' hp
    -- Leaves in another order give their lists in that order.
    obtain ⟨resolved', h', hp'⟩ := List.perm_comp_forall₂ hp h
    constructor
    · rw [hok h, hok h', agree_of_perm hp']
    · intro common common' hcommon hcommon'
      obtain ⟨hagree, rfl⟩ := h.eq_ok_iff.mp hcommon
      obtain ⟨_, rfl⟩ := (ResolveTo.eq_ok_iff h').mp hcommon'
      exact perm_signatures hagree h.distinctNames hp'

end Compiler

namespace Wallet

/-- A field with the amount of a payment, in the given type. -/
def amount (type : String) : Field := { name := "amount", type := { qualifier := .str type } }

/-- Cash and cards have an amount each; that of a cheque is a text. -/
def leaves : List (Component Unit) := [
  { name := "Cash", fields := [amount "kotlin.Double"] },
  { name := "Card", fields := [{ name := "number", type := { qualifier := .str "kotlin.String" } },
      amount "kotlin.Double"] },
  { name := "Cheque", fields := [amount "kotlin.String"] }]

/-- The fields of the leaves. -/
def shown : List (List ResolvedField) := [
  [{ name := "amount", type := "Double" }],
  [{ name := "number", type := "String" }, { name := "amount", type := "Double" }],
  [{ name := "amount", type := "String" }]]

/-- The cheque is the first leaf that disagrees with the cash. -/
theorem cheque_conflict : ({} : Compiler).ResolveTo .null leaves shown ∧
    ¬ ShapesAgree shown ∧ ∃ first second, FirstConflict shown first second ∧
      ({} : Compiler).commonFieldsOf .null leaves =
        .error (.schema (.conflictingField first second)) := by
  have h : ({} : Compiler).ResolveTo .null leaves shown :=
    .cons rfl (.cons rfl (.cons rfl .nil))
  obtain ⟨hagree, _, hconflict, _⟩ := Compiler.commonFieldsOf_exact h
  have hnot : ¬ ShapesAgree shown := by
    intro ha
    obtain ⟨common, hok⟩ := hagree.mpr ha
    cases hok
  obtain ⟨first, second, hfirst, herr, _⟩ := hconflict hnot
  exact ⟨h, hnot, first, second, hfirst, herr⟩

end Wallet
end ClassModel
