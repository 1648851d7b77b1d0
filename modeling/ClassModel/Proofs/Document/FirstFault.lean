import ClassModel.Proofs.Document.Faults
import ClassModel.Proofs.Document.Loads

/-!
# Which fault a document gives

A document is read component by component, and a component after the targets of its mapping. The
fault that it gives is therefore the first one on a walk along mappings, where everything that the
walk has left behind can be built. `Stops` says that without the catalog and without the bound on
the depth: what is left behind is judged by the document alone (`Builds`), for a call succeeds
exactly on values that can be built. So `build` fails with `e` exactly if the walk stops with `e`
(`build_eq_error_iff`), by induction on the depth, and a document gives its `FirstFault`.

A document should load or stop with a fault that has a wording. It does so exactly if its first
fault is no misfit (`load_worded_iff`), and a misfit is always a value in one of four places that
are used without being checked (`Misplaced`).
-/

set_option autoImplicit false

namespace ClassModel
namespace Document

variable {raw targets : Entries Json} {es : List (String × Json)} {depth : Nat}
  {walk : List String} {built : Catalog} {n t : String} {j : Json} {e : Fault}

/-! ## The relation -/

/-- The value is the name of a component that can be built: whatever it reaches along mappings has
the shapes of a component and does not come back to itself. -/
def Builds (raw : Entries Json) (j : Json) : Prop :=
  ∃ n, j = .str n ∧ ∀ m, Relation.ReflTransGen (Refers raw) n m →
    (∃ es, raw.get? m = some (.obj es) ∧ IsComponent es) ∧ ¬ Relation.TransGen (Refers raw) m m

/-- `Stops raw walk j e`: a walk of names has led to the value `j`, and `e` is the first fault from
there on. The targets of a component are followed in order, and those before the one with the fault
can be built. -/
inductive Stops (raw : Entries Json) : List String → Json → Fault → Prop
  | key {walk : List String} {j : Json} : j.isKey = false → Stops raw walk j (.misfit .key)
  | noText {walk : List String} {j : Json} : j.isKey = true → (∀ n, j ≠ .str n) →
      Stops raw walk j (unknownTarget walk j.display)
  | cyclic {walk : List String} {n : String} : n ∈ walk →
      Stops raw walk (.str n) (.cyclicReference (walk ++ [n]))
  | unknown {walk : List String} {n : String} : n ∉ walk → raw.get? n = none →
      Stops raw walk (.str n) (unknownTarget walk n)
  | own {walk : List String} {n : String} {j : Json} {e : Fault} : n ∉ walk →
      raw.get? n = some j → OwnFault n j e → Stops raw walk (.str n) e
  | target {walk : List String} {n : String} {es : List (String × Json)}
      {before after : Entries Json} {literal : String} {j : Json} {e : Fault} : n ∉ walk →
      raw.get? n = some (.obj es) → Offers es (before ++ (literal, j) :: after) →
      (∀ b ∈ before, Builds raw b.2) → Stops raw (walk ++ [n]) j e → Stops raw walk (.str n) e

/-- The first fault of a document, its components taken in order. -/
inductive FirstFault (document : Json) : Fault → Prop
  | noComponents : components? document = none → FirstFault document .noComponents
  | component {raw : Entries Json} {before after : List String} {n : String} {e : Fault} :
      components? document = some raw → raw.keys = before ++ n :: after →
      (∀ m ∈ before, Builds raw (.str m)) → Stops raw [] (.str n) e → FirstFault document e

/-! ## One call -/

/-- Where the fields are right, the rest is up to the discriminator. -/
theorem exists_build_of_hasFields (hn : n ∉ built.keys) (hw : n ∉ walk)
    (hraw : raw.get? n = some (.obj es)) (h : HasFields es) : ∃ fs,
    build raw (depth + 1) walk built (.str n) =
      match buildDiscriminator (build raw depth (walk ++ [n])) n built
        (member? es "discriminator") with
      | .error e => .error e
      | .ok (discriminator, built) => .ok (n, built.set n (.ofFields n
          ((member? es "qualifier").getD (.str "")) fs discriminator)) := by
  obtain ⟨fes, fs, hfes, hfs⟩ := h.exists_read n
  refine ⟨fs, ?_⟩
  rw [build, if_neg (mt Entries.has_iff.mp hn), if_neg (mt List.contains_iff_mem.mp hw), hraw]
  dsimp only
  rw [hfes]
  dsimp only
  rewrite [hfs]
  rfl

theorem build_of_ownFault (hn : n ∉ built.keys) (hw : n ∉ walk) (hraw : raw.get? n = some j)
    (h : OwnFault n j e) : build raw (depth + 1) walk built (.str n) = .error e := by
  cases h with
  | component ho =>
    rw [build, if_neg (mt Entries.has_iff.mp hn), if_neg (mt List.contains_iff_mem.mp hw), hraw]
    cases j with
    | obj es => exact absurd rfl (ho es)
    | _ => rfl
  | fields ho =>
    rw [build, if_neg (mt Entries.has_iff.mp hn), if_neg (mt List.contains_iff_mem.mp hw), hraw]
    dsimp only
    rw [entriesOf_eq_error_iff.mpr ⟨ho, rfl⟩]
  | field hfes heq hbefore hfault =>
    rw [build, if_neg (mt Entries.has_iff.mp hn), if_neg (mt List.contains_iff_mem.mp hw), hraw]
    dsimp only
    rw [entriesOf_eq_ok_iff.mpr ⟨_, hfes, rfl⟩]
    dsimp only
    rw [fieldsOf_eq_error_iff.mpr ⟨_, _, _, heq, hbefore, hfault⟩]
  | @discriminator _ d hfields hd hshape =>
    obtain ⟨fs, hbuild⟩ := exists_build_of_hasFields hn hw hraw hfields
    have hstop : buildDiscriminator (build raw depth (walk ++ [n])) n built (some d) =
        .error (.discriminatorShape n) := by
      cases d with
      | obj des => rw [buildDiscriminator, hshape des rfl]
      | _ => rfl
    rw [hbuild, hd, hstop]
  | mapping hfields hd hfield hmapping =>
    obtain ⟨fs, hbuild⟩ := exists_build_of_hasFields hn hw hraw hfields
    rw [hbuild, hd, buildDiscriminator, hfield]
    dsimp only
    rw [entriesOf_eq_error_iff.mpr ⟨hmapping, rfl⟩]

/-- A component without a fault of its own stops where its targets do. -/
theorem build_eq_error_iff_of_offers (hn : n ∉ built.keys) (hw : n ∉ walk)
    (hraw : raw.get? n = some (.obj es)) (h : Offers es targets) :
    build raw (depth + 1) walk built (.str n) = .error e ↔
      buildTargets (build raw depth (walk ++ [n])) built targets = .error e := by
  cases h with
  | plain hfields hd =>
    obtain ⟨fs, hbuild⟩ := exists_build_of_hasFields hn hw hraw hfields
    rw [hbuild, hd]
    exact iff_of_false (by simp [buildDiscriminator]) (by simp [buildTargets])
  | union hfields hd hfield hmes =>
    obtain ⟨fs, hbuild⟩ := exists_build_of_hasFields hn hw hraw hfields
    rw [hbuild, hd, buildDiscriminator, hfield]
    dsimp only
    rw [entriesOf_eq_ok_iff.mpr ⟨_, hmes, rfl⟩]
    dsimp only
    cases buildTargets (build raw depth (walk ++ [n])) built (Entries.ofList _) <;> simp

/-! ## Where a walk leads -/

/-- A walk along references, without repeats, leads to a value: if that is a name, the last
component of the walk refers to it. -/
structure Leads (raw : Entries Json) (walk : List String) (j : Json) : Prop where
  distinct : walk.Nodup
  known : walk ⊆ raw.keys
  chain : ∀ t, j = .str t → (walk ++ [t]).IsChain (Refers raw)

theorem Leads.top (n : String) : Leads raw [] (.str n) where
  distinct := List.nodup_nil
  known := List.nil_subset _
  chain := fun t _ => List.isChain_singleton t

theorem Offers.refers {literal : String} (h : Offers es targets)
    (hraw : raw.get? n = some (.obj es)) (ht : (literal, .str t) ∈ targets) : Refers raw n t := by
  cases h with
  | plain => cases ht
  | union _ hd _ hmes => exact ⟨es, _, _, literal, hraw, hd, hmes, ht⟩

theorem Leads.next {literal : String} (h : Leads raw walk (.str n)) (hw : n ∉ walk)
    (hraw : raw.get? n = some (.obj es)) (ho : Offers es targets) (ht : (literal, j) ∈ targets) :
    Leads raw (walk ++ [n]) j where
  distinct := nodup_snoc h.distinct hw
  known := List.append_subset.mpr ⟨h.known, by simpa using Entries.mem_keys_of_get? hraw⟩
  chain := by
    rintro t rfl
    exact isChain_snoc (h.chain n rfl) (ho.refers hraw ht)

/-! ## What can be built does not stop -/

theorem Builds.target {literal : String} (h : Builds raw (.str n))
    (hraw : raw.get? n = some (.obj es)) (ho : Offers es targets) (ht : (literal, j) ∈ targets) :
    Builds raw j := by
  obtain ⟨_, ⟨⟩, hall⟩ := h
  obtain ⟨⟨es', hraw', hcomponent⟩, _⟩ := hall n .refl
  rw [hraw] at hraw'
  cases hraw'
  cases ho with
  | plain => cases ht
  | union _ hd _ hmes =>
    -- The targets of a component are names.
    obtain ⟨des', _, mes', hdes, _, hmes', htexts⟩ := hcomponent.discriminator _ hd
    cases hdes
    rw [hmes] at hmes'
    cases hmes'
    obtain ⟨t, rfl⟩ := htexts _ ht
    have href : Refers raw n t := ⟨es, _, _, literal, hraw, hd, hmes, ht⟩
    exact ⟨t, rfl, fun m hm => hall m (.head href hm)⟩

/-- **A value at which a walk stops cannot be built.** -/
theorem Stops.not_builds (h : Stops raw walk j e) (hl : Leads raw walk j) : ¬ Builds raw j := by
  intro hb
  induction h with
  | key hkey =>
    obtain ⟨n, rfl, _⟩ := hb
    cases hkey
  | noText _ htext =>
    obtain ⟨n, rfl, _⟩ := hb
    exact htext n rfl
  | cyclic hn =>
    obtain ⟨_, ⟨⟩, hall⟩ := hb
    exact (hall _ .refl).2 (transGen_of_isChain (hl.chain _ rfl) hn)
  | unknown _ hraw =>
    obtain ⟨_, ⟨⟩, hall⟩ := hb
    obtain ⟨⟨es, hes, _⟩, _⟩ := hall _ .refl
    rw [hraw] at hes
    cases hes
  | own _ hraw hown =>
    obtain ⟨_, ⟨⟩, hall⟩ := hb
    obtain ⟨⟨es, hes, hcomponent⟩, _⟩ := hall _ .refl
    rw [hraw] at hes
    cases hes
    exact hown.not_isComponent ⟨es, rfl, hcomponent⟩
  | @target walk n es before after literal j e hw hraw ho _ _ ih =>
    have hmem : (literal, j) ∈ before ++ (literal, j) :: after :=
      List.mem_append_right before List.mem_cons_self
    exact ih (hl.next hw hraw ho hmem) (hb.target hraw ho hmem)

theorem Sound.builds (h : Sound raw built) (hn : n ∈ built.keys) : Builds raw (.str n) := by
  refine ⟨n, rfl, fun m hm => ?_⟩
  have hm' := h.mem_of_reflTransGen hn hm
  obtain ⟨c, hc⟩ := Entries.exists_get?_of_mem hm'
  obtain ⟨es, hraw, hgives⟩ := h.given m c hc
  exact ⟨⟨es, hraw, exists_givesComponent_iff.mp ⟨c, hgives⟩⟩, h.acyclic m hm'⟩

/-! ## A call stops with the first fault -/

/-- The loop over the targets stops at the first one with a fault, if each call does. -/
theorem buildTargets_eq_error_iff (hs : Sound raw built)
    (hstep : ∀ b ∈ targets, ∀ built, Sound raw built →
      ∀ e, build raw depth walk built b.2 = .error e ↔ Stops raw walk b.2 e)
    (hleads : ∀ b ∈ targets, Leads raw walk b.2) :
    buildTargets (build raw depth walk) built targets = .error e ↔
      FirstAt (fun b => Builds raw b.2) (fun _ b => Stops raw walk b.2 e) targets := by
  induction targets generalizing built with
  | nil =>
    rw [buildTargets]
    exact iff_of_false (by simp) not_firstAt_nil
  | cons b rest ih =>
    -- A target before the first fault is built, and what is built then is sound for the rest.
    obtain ⟨literal, j⟩ := b
    obtain ⟨hj, hrest⟩ := List.forall_mem_cons.mp hstep
    obtain ⟨hlj, hlrest⟩ := List.forall_mem_cons.mp hleads
    rw [buildTargets, firstAt_cons]
    dsimp only
    rw [← hj built hs e]
    cases hb : build raw depth walk built j with
    | error e' =>
      have hnot : ¬ Builds raw j := ((hj built hs e').mp hb).not_builds hlj
      simp [hnot]
    | ok r =>
      obtain ⟨n, mid⟩ := r
      obtain ⟨hn, hext⟩ := build_extends hs hb
      obtain rfl := eq_of_build_eq_ok hb
      have hbuilds : Builds raw (.str n) := hext.sound.builds hn
      rw [← ih hext.sound hrest hlrest]
      dsimp only
      cases buildTargets (build raw depth walk) mid rest <;> simp [hbuilds]

theorem build_eq_error_iff_of_noText (hj : ∀ n, j ≠ .str n) :
    build raw (depth + 1) walk built j = .error e ↔ Stops raw walk j e := by
  have hbuild : build raw (depth + 1) walk built j =
      if j.isKey then .error (unknownTarget walk j.display) else .error (.misfit .key) := by
    cases j with
    | str n => exact absurd rfl (hj n)
    | _ => rfl
  rw [hbuild]
  constructor
  · intro h
    split at h
    · next hkey =>
      cases h
      exact .noText hkey hj
    · next hkey =>
      cases h
      exact .key (Bool.not_eq_true _ ▸ hkey)
  · intro h
    cases h with
    | key hkey => simp [hkey]
    | noText hkey => simp [hkey]
    | cyclic | unknown | own | target => exact absurd rfl (hj _)

/-- A call for a name fails with the first fault from there on, if the loop over the targets of a
component does. -/
theorem build_eq_error_iff_of_targets (hs : Sound raw built) (hl : Leads raw walk (.str n))
    (htargets : ∀ es targets, n ∉ walk → raw.get? n = some (.obj es) → Offers es targets →
      (buildTargets (build raw depth (walk ++ [n])) built targets = .error e ↔
        FirstAt (fun b => Builds raw b.2) (fun _ b => Stops raw (walk ++ [n]) b.2 e) targets)) :
    build raw (depth + 1) walk built (.str n) = .error e ↔ Stops raw walk (.str n) e := by
  constructor
  · intro h
    by_cases hb : n ∈ built.keys
    · rw [build_of_built hb] at h
      cases h
    by_cases hw : n ∈ walk
    · rw [build_of_waiting hb hw] at h
      cases h
      exact .cyclic hw
    cases hraw : raw.get? n with
    | none =>
      rw [build_of_unknown hb hw hraw] at h
      cases h
      exact .unknown hw hraw
    | some j =>
      rcases ownFault_or_offers n j with ⟨e', hown⟩ | ⟨es, targets, rfl, ho⟩
      · rw [build_of_ownFault hb hw hraw hown] at h
        cases h
        exact .own hw hraw hown
      · rw [build_eq_error_iff_of_offers hb hw hraw ho, htargets es targets hw hraw ho] at h
        obtain ⟨before, ⟨literal, j⟩, after, rfl, hbefore, hstop⟩ := h
        exact .target hw hraw ho hbefore hstop
  · intro h
    -- What is built can be built, so the name is not.
    have hb : n ∉ built.keys := fun hm => h.not_builds hl (hs.builds hm)
    cases h with
    | key hkey => cases hkey
    | noText _ htext => exact absurd rfl (htext n)
    | cyclic hw => exact build_of_waiting hb hw
    | unknown hw hraw => exact build_of_unknown hb hw hraw
    | own hw hraw hown => exact build_of_ownFault hb hw hraw hown
    | target hw hraw ho hbefore hstop =>
      rw [build_eq_error_iff_of_offers hb hw hraw ho, htargets _ _ hw hraw ho]
      exact ⟨_, _, _, rfl, hbefore, hstop⟩

/-- **A call fails exactly with the first fault from its value on.** -/
theorem build_eq_error_iff (hs : Sound raw built) (hl : Leads raw walk j)
    (hd : raw.length < depth + walk.length) :
    build raw depth walk built j = .error e ↔ Stops raw walk j e := by
  induction depth generalizing walk built j e with
  | zero =>
    have hle := length_le_of_subset_keys hl.distinct hl.known
    omega
  | succ depth ih =>
    by_cases hj : ∃ n, j = .str n
    · obtain ⟨n, rfl⟩ := hj
      refine build_eq_error_iff_of_targets hs hl fun es targets hw hraw ho => ?_
      have hleads : ∀ b ∈ targets, Leads raw (walk ++ [n]) b.2 :=
        fun b hb => hl.next hw hraw ho hb
      have hroom : raw.length < depth + (walk ++ [n]).length := by
        rw [List.length_append, List.length_singleton]
        omega
      exact buildTargets_eq_error_iff hs (fun b hb _ hs _ => ih hs (hleads b hb) hroom) hleads
    · exact build_eq_error_iff_of_noText (not_exists.mp hj)

/-! ## The whole document -/

/-- Names are built like targets that are texts. -/
theorem buildNames_eq_error_iff (ns : List String) :
    buildNames raw depth walk built ns = .error e ↔
      buildTargets (build raw depth walk) built (ns.map fun n => (n, .str n)) = .error e := by
  have htexts : (ns.map fun n => (n, Json.str n)) =
      (ns.map fun n => (n, n)).map fun e => (e.1, .str e.2) := by simp
  have hnames : (ns.map fun n => (n, n)).map (·.2) = ns := by
    rw [List.map_map]
    exact List.map_id ns
  rw [htexts, buildTargets_eq, hnames]
  cases buildNames raw depth walk built ns <;> simp

/-- **A document that does not load gives its first fault.** -/
theorem load_eq_error_iff {document : Json} :
    load document = .error e ↔ FirstFault document e := by
  cases hdoc : components? document with
  | none =>
    rw [load_eq_of_none hdoc]
    constructor
    · intro h
      cases h
      exact .noComponents hdoc
    · intro h
      cases h with
      | noComponents => rfl
      | component hdoc' =>
        rw [hdoc] at hdoc'
        cases hdoc'
  | some raw =>
    -- At the top every name of the document is a target, in the order of the document.
    have hleads : ∀ b ∈ raw.keys.map fun n => (n, Json.str n), Leads raw [] b.2 := by
      intro b hb
      obtain ⟨n, _, rfl⟩ := List.mem_map.mp hb
      exact .top n
    have hnames : buildNames raw (raw.length + 1) [] [] raw.keys = .error e ↔
        FirstAt (fun n => Builds raw (.str n)) (fun _ n => Stops raw [] (.str n) e) raw.keys := by
      have htargets := buildTargets_eq_error_iff (e := e) Sound.nil
        (fun b hb _ hs _ => build_eq_error_iff hs (hleads b hb) (Nat.lt_succ_self _)) hleads
      exact (buildNames_eq_error_iff raw.keys).trans (htargets.trans firstAt_map)
    rw [load_eq hdoc]
    constructor
    · intro h
      cases hbuilt : buildNames raw (raw.length + 1) [] [] raw.keys with
      | ok built =>
        rw [hbuilt] at h
        cases h
      | error e' =>
        rw [hbuilt] at h
        cases h
        obtain ⟨before, n, after, hkeys, hbefore, hstop⟩ := hnames.mp hbuilt
        exact .component hdoc hkeys hbefore hstop
    · intro h
      cases h with
      | noComponents hdoc' =>
        rw [hdoc] at hdoc'
        cases hdoc'
      | component hdoc' hkeys hbefore hstop =>
        rw [hdoc] at hdoc'
        cases hdoc'
        rw [hnames.mpr ⟨_, _, _, hkeys, hbefore, hstop⟩]

/-! ## Where the wording is missing -/

theorem unknownTarget_ne_misfit {m : Misfit} (hw : walk ≠ []) :
    unknownTarget walk t ≠ .misfit m := by
  rw [unknownTarget]
  cases hlast : walk.getLast? with
  | none => exact absurd (List.getLast?_eq_none_iff.mp hlast) hw
  | some source => simp

/-- The value is a target of some component. -/
def IsTarget (raw : Entries Json) (j : Json) : Prop :=
  ∃ n es targets literal, raw.get? n = some (.obj es) ∧ Offers es targets ∧ (literal, j) ∈ targets

/-- A fault without a wording is a misplaced value. A walk starts at a name that is there, so the
last component of no walk is never asked for. -/
theorem Stops.misplaced (h : Stops raw walk j e) :
    ∀ m, e = .misfit m → (∃ n ∈ raw.keys, j = .str n) ∨ walk ≠ [] ∧ IsTarget raw j →
      Misplaced raw m := by
  induction h with
  | key hkey =>
    rintro m ⟨⟩ (⟨n, _, rfl⟩ | ⟨_, n, es, targets, literal, hraw, ho, ht⟩)
    · cases hkey
    · exact .target hraw ho ht hkey
  | noText _ htext =>
    rintro m he (⟨n, _, rfl⟩ | ⟨hw, _⟩)
    · exact absurd rfl (htext n)
    · exact absurd he (unknownTarget_ne_misfit hw)
  | cyclic => rintro m ⟨⟩
  | unknown _ hraw =>
    rintro m he (⟨n, hn, ⟨⟩⟩ | ⟨hw, _⟩)
    · exact absurd hn (Entries.notMem_keys_of_get? hraw)
    · exact absurd he (unknownTarget_ne_misfit hw)
  | own _ hraw hown =>
    rintro m rfl _
    exact hown.misplaced hraw
  | @target walk n es before after literal j e _ hraw ho _ _ ih =>
    intro m he _
    have hmem : (literal, j) ∈ before ++ (literal, j) :: after :=
      List.mem_append_right before List.mem_cons_self
    exact ih m he (Or.inr ⟨by simp, n, es, _, literal, hraw, ho, hmem⟩)

theorem FirstFault.misplaced {document : Json} {m : Misfit}
    (h : FirstFault document (.misfit m)) :
    ∃ raw, components? document = some raw ∧ Misplaced raw m := by
  cases h with
  | @component raw before after n _ hdoc hkeys _ hstop =>
    have hn : n ∈ raw.keys := by
      rw [hkeys]
      exact List.mem_append_right before List.mem_cons_self
    exact ⟨raw, hdoc, hstop.misplaced m rfl (Or.inl ⟨n, hn, rfl⟩)⟩

/-- **When a document is answered in words.** A document loads, or stops with a fault that has a
wording, exactly if its first fault is no misfit. What stops it is its first fault in any case, and
a misfit is a value that nothing checks before it is used: `fields` or a `mapping` that is no
object, `generics` that nothing can be listed from, or a target that can be no key. -/
theorem load_worded_iff (document : Json) :
    (((∃ catalog, load document = .ok catalog) ∨
        ∃ e, load document = .error e ∧ ∀ m, e ≠ .misfit m) ↔
      ∀ m, ¬ FirstFault document (.misfit m)) ∧
    (∀ e, load document = .error e ↔ FirstFault document e) ∧
    ∀ m, load document = .error (.misfit m) →
      ∃ raw, components? document = some raw ∧ Misplaced raw m := by
  refine ⟨?_, fun e => load_eq_error_iff, fun m h => (load_eq_error_iff.mp h).misplaced⟩
  constructor
  · rintro (⟨catalog, hok⟩ | ⟨e, he, hworded⟩) m hfirst
    · rw [load_eq_error_iff.mpr hfirst] at hok
      cases hok
    · rw [load_eq_error_iff.mpr hfirst] at he
      cases he
      exact hworded m rfl
  · intro hfirst
    cases hload : load document with
    | ok catalog => exact Or.inl ⟨catalog, rfl⟩
    | error e =>
      refine Or.inr ⟨e, rfl, ?_⟩
      rintro m rfl
      exact hfirst m (load_eq_error_iff.mp hload)

/-- A document with one component, of the given entries. -/
def cardOnly (es : List (String × Json)) : Json := .obj [("components", .obj [("Card", .obj es)])]

/-- Behind another fault a misplaced value does no harm. -/
example : load (cardOnly [("fields", .obj [("kind", .int 5)]),
    ("discriminator", .obj [("field", .str "kind"), ("mapping", .arr [])])]) =
      .error (.fieldShape "Card.kind") := rfl

/-- **Not every document is answered in words**: `fields` that are a list are no entries. -/
theorem not_all_documents_worded :
    ¬ ∀ document, (∃ catalog, load document = .ok catalog) ∨
      ∃ e, load document = .error e ∧ ∀ m, e ≠ .misfit m := by
  intro hall
  have hload : load (cardOnly [("fields", .arr [])]) = .error (.misfit .entries) := rfl
  rcases hall (cardOnly [("fields", .arr [])]) with ⟨catalog, hok⟩ | ⟨e, he, hworded⟩
  · rw [hload] at hok
    cases hok
  · rw [hload] at he
    cases he
    exact hworded .entries rfl

end Document
end ClassModel
