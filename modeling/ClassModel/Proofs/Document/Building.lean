import ClassModel.Proofs.Document.References

/-!
# Building components

A component is built after the components that it refers to, and once: what is built is kept. One
call of `build` does one of four things. It finds the component built, it finds it on the walk, it
finds no value for it, or it builds the targets of the component that the value gives and adds it
(`build_of_built`, `build_of_waiting`, `build_of_unknown`, `build_of_gives`). If it succeeds, it did
the first or the last (`build_eq_ok_cases`).

The catalog stays `Sound` in that: it holds what the document gives, with everything that this
refers to, and nothing in it comes back to itself. The last is not tested for what is built already.
It holds because a component is added when its targets are there and it is not: what is there is
closed under references, so none of them leads to the new one (`Sound.add`). That it is not there
although its targets have been built since it was looked for is what `Extends` is about: a name on
the walk waits until the walk has come back to it.
-/

set_option autoImplicit false

namespace ClassModel

/-! ## Fields of distinct names -/

theorem setField_of_notMem {fs : List Field} {f : Field} (h : f.name ∉ fs.map (·.name)) :
    setField fs f = fs ++ [f] := by
  induction fs with
  | nil => rfl
  | cons g rest ih =>
    rw [List.map_cons, List.mem_cons, not_or] at h
    rw [setField, if_neg (Ne.symm h.1), ih h.2, List.cons_append]

theorem foldl_setField_of_nodup {fs more : List Field}
    (h : ((fs ++ more).map (·.name)).Nodup) : more.foldl setField fs = fs ++ more := by
  induction more generalizing fs with
  | nil => rw [List.foldl_nil, List.append_nil]
  | cons f rest ih =>
    have hf : f.name ∉ fs.map (·.name) := by
      rw [List.map_append, List.map_cons] at h
      intro hm
      exact List.disjoint_of_nodup_append h hm List.mem_cons_self
    have hassoc : fs ++ f :: rest = (fs ++ [f]) ++ rest := by
      rw [List.append_assoc, List.singleton_append]
    rw [List.foldl_cons, setField_of_notMem hf, hassoc]
    rw [hassoc] at h
    exact ih h

/-- A component is made of its own fields: no two of them have one name. -/
theorem Component.ofFields_self {ι : Type} (c : Component ι) :
    .ofFields c.name c.qualifier c.fields c.discriminator = c := by
  have hfields : c.fields.foldl setField [] = c.fields := foldl_setField_of_nodup c.distinct
  obtain ⟨_, _, _, _, _⟩ := c
  rw [ofFields]
  congr

namespace Document

variable {raw : Entries Json} {es : List (String × Json)} {depth : Nat} {walk ns : List String}
  {built built' : Catalog} {n t : String} {j : Json} {c : Component String} {e : Fault}

/-! ## The targets of a component -/

/-- Builds the components of a list of names, in order. -/
def buildNames (raw : Entries Json) (depth : Nat) (walk : List String) :
    Catalog → List String → Except Fault Catalog
  | built, [] => .ok built
  | built, n :: rest =>
    match build raw depth walk built (.str n) with
    | .error e => .error e
    | .ok (_, built) => buildNames raw depth walk built rest

theorem buildAll_eq_buildNames :
    buildAll raw built ns = buildNames raw (raw.length + 1) [] built ns := by
  induction ns generalizing built with
  | nil => rfl
  | cons n rest ih =>
    rw [buildAll, buildNames]
    cases build raw (raw.length + 1) [] built (.str n) with
    | error e => rfl
    | ok r => exact ih

/-- A component that is built has the name that was asked for. -/
theorem eq_of_build_eq_ok (h : build raw depth walk built j = .ok (n, built')) : j = .str n := by
  cases depth with
  | zero => cases h
  | succ depth =>
    cases j with
    | str name =>
      -- Whichever way the call succeeds, it gives the name back.
      rw [build] at h
      repeat' split at h
      all_goals cases h
      all_goals rfl
    | _ =>
      rw [build] at h
      · split at h <;> cases h
      · intro name hname
        cases hname

theorem eq_of_buildTargets_eq_ok {targets : List (String × Json)} {mapping : Entries String}
    (h : buildTargets (build raw depth walk) built targets = .ok (mapping, built')) :
    targets = mapping.map fun e => (e.1, .str e.2) := by
  induction targets generalizing built mapping with
  | nil =>
    cases h
    rfl
  | cons e rest ih =>
    obtain ⟨literal, target⟩ := e
    rw [buildTargets] at h
    split at h
    · cases h
    · next n mid hn =>
      split at h
      · cases h
      · next mapping' built'' hrest =>
        cases h
        rw [List.map_cons, ← ih hrest, eq_of_build_eq_ok hn]

/-- Targets that are texts are built like a list of names, and keep their literals. -/
theorem buildTargets_eq (mapping : Entries String) :
    buildTargets (build raw depth walk) built (mapping.map fun e => (e.1, .str e.2)) =
      match buildNames raw depth walk built (mapping.map (·.2)) with
      | .error e => .error e
      | .ok built => .ok (mapping, built) := by
  induction mapping generalizing built with
  | nil => rfl
  | cons e rest ih =>
    rw [List.map_cons, List.map_cons, buildTargets, buildNames]
    cases hn : build raw depth walk built (.str e.2) with
    | error e => rfl
    | ok r =>
      obtain ⟨n, mid⟩ := r
      have hname : e.2 = n := Json.str.inj (eq_of_build_eq_ok hn)
      dsimp only
      rw [ih, ← hname]
      cases buildNames raw depth walk mid (rest.map (·.2)) <;> rfl

/-! ## One call -/

theorem build_of_built (hn : n ∈ built.keys) :
    build raw (depth + 1) walk built (.str n) = .ok (n, built) := by
  rw [build, if_pos (Entries.has_iff.mpr hn)]

theorem build_of_waiting (hn : n ∉ built.keys) (hw : n ∈ walk) :
    build raw (depth + 1) walk built (.str n) = .error (.cyclicReference (walk ++ [n])) := by
  rw [build, if_neg (mt Entries.has_iff.mp hn), if_pos (List.contains_iff_mem.mpr hw)]

theorem build_of_unknown (hn : n ∉ built.keys) (hw : n ∉ walk) (hraw : raw.get? n = none) :
    build raw (depth + 1) walk built (.str n) = .error (unknownTarget walk n) := by
  rw [build, if_neg (mt Entries.has_iff.mp hn), if_neg (mt List.contains_iff_mem.mp hw), hraw]

/-- **A component is added after its targets.** -/
theorem build_of_gives (hn : n ∉ built.keys) (hw : n ∉ walk) (hraw : raw.get? n = some (.obj es))
    (hc : GivesComponent n es c) :
    build raw (depth + 1) walk built (.str n) =
      match buildNames raw depth (walk ++ [n]) built c.targets with
      | .error e => .error e
      | .ok built => .ok (n, built.set n c) := by
  obtain ⟨fes, hfes, hfields⟩ := hc.fields
  have hentries : entriesOf (member? es "fields") = .ok (Entries.ofList fes) :=
    entriesOf_eq_ok_iff.mpr ⟨fes, hfes, rfl⟩
  have hread : fieldsOf n (Entries.ofList fes) = .ok c.fields := fieldsOf_eq_ok_iff.mpr hfields
  have hself : Component.ofFields n ((member? es "qualifier").getD (.str "")) c.fields
      c.discriminator = c := by
    rw [← hc.name, ← hc.qualifier]
    exact c.ofFields_self
  have hdisc : buildDiscriminator (build raw depth (walk ++ [n])) n built
      (member? es "discriminator") =
        match buildNames raw depth (walk ++ [n]) built c.targets with
        | .error e => .error e
        | .ok built => .ok (c.discriminator, built) := by
    have hd := hc.discriminator
    rw [Component.targets, Component.mapping]
    -- Only the mapping calls for other components, so the targets are built inside the
    -- discriminator.
    generalize member? es "discriminator" = o at hd ⊢
    generalize c.discriminator = d at hd ⊢
    cases hd with
    | none => rfl
    | @object des mes field mapping hfield hmes hmapping =>
      have hmes' : entriesOf (member? des "mapping") = .ok (Entries.ofList mes) :=
        entriesOf_eq_ok_iff.mpr ⟨mes, hmes, rfl⟩
      rw [buildDiscriminator, hfield]
      dsimp only
      rw [hmes', hmapping]
      dsimp only
      rw [buildTargets_eq]
      dsimp only [Option.map_some, Option.getD_some]
      cases buildNames raw depth (walk ++ [n]) built (mapping.map (·.2)) <;> rfl
  rw [build, if_neg (mt Entries.has_iff.mp hn), if_neg (mt List.contains_iff_mem.mp hw), hraw]
  dsimp only
  rw [hentries]
  dsimp only
  rw [hread]
  dsimp only
  rw [hdisc]
  cases buildNames raw depth (walk ++ [n]) built c.targets with
  | error e => rfl
  | ok mid =>
    dsimp only
    rw [hself]

/-- The discriminator that is built is the one that the value gives. -/
theorem givesDiscriminator_of_build {o : Option Json} {d : Option (Discriminator String)}
    (h : buildDiscriminator (build raw depth walk) n built o = .ok (d, built')) :
    GivesDiscriminator o d := by
  cases o with
  | none =>
    cases h
    exact .none
  | some j =>
    cases j with
    | obj des =>
      rw [buildDiscriminator] at h
      split at h
      · cases h
      · next field hfield =>
        split at h
        · cases h
        · next targets htargets =>
          split at h
          · cases h
          · next mapping mid hmapping =>
            cases h
            obtain ⟨mes, hmes, rfl⟩ := entriesOf_eq_ok_iff.mp htargets
            exact .object hfield hmes (eq_of_buildTargets_eq_ok hmapping)
    | _ => cases h

/-- **What a call that succeeds has done**: the component was built, or it is added after its
targets. -/
theorem build_eq_ok_cases (h : build raw (depth + 1) walk built j = .ok (n, built')) :
    (n ∈ built.keys ∧ built' = built) ∨
    n ∉ built.keys ∧ n ∉ walk ∧ ∃ es c mid, raw.get? n = some (.obj es) ∧
      GivesComponent n es c ∧ buildNames raw depth (walk ++ [n]) built c.targets = .ok mid ∧
      built' = mid.set n c := by
  obtain rfl := eq_of_build_eq_ok h
  by_cases hn : n ∈ built.keys
  · rw [build_of_built hn] at h
    cases h
    exact Or.inl ⟨hn, rfl⟩
  by_cases hw : n ∈ walk
  · rw [build_of_waiting hn hw] at h
    cases h
  refine Or.inr ⟨hn, hw, ?_⟩
  -- The readers have succeeded, so the value gives a component, and the call is the one for it.
  obtain ⟨es, c, hraw, hc⟩ : ∃ es c, raw.get? n = some (.obj es) ∧ GivesComponent n es c := by
    rw [build, if_neg (mt Entries.has_iff.mp hn), if_neg (mt List.contains_iff_mem.mp hw)] at h
    split at h
    · cases h
    · next es hraw =>
      split at h
      · cases h
      · next entries hentries =>
        split at h
        · cases h
        · next fs hfs =>
          split at h
          · cases h
          · next d mid hd =>
            obtain ⟨fes, hfes, rfl⟩ := entriesOf_eq_ok_iff.mp hentries
            have hfields := fieldsOf_eq_ok_iff.mp hfs
            have hdistinct : (fs.map (·.name)).Nodup := by
              rw [names_of_givesField hfields]
              exact Entries.nodup_keys_ofList fes
            exact ⟨es, ⟨n, _, fs, d, hdistinct⟩, hraw, rfl, rfl, ⟨fes, hfes, hfields⟩,
              givesDiscriminator_of_build hd⟩
    · cases h
  rw [build_of_gives hn hw hraw hc] at h
  split at h
  · cases h
  · next mid hmid =>
    cases h
    exact ⟨es, c, mid, hraw, hc, hmid, rfl⟩

/-! ## What is built is sound -/

/-- The catalog holds what the document gives, with everything that it refers to, and nothing in it
comes back to itself. -/
structure Sound (raw : Entries Json) (built : Catalog) : Prop where
  given : ∀ n c, built.get? n = some c → ∃ es, raw.get? n = some (.obj es) ∧ GivesComponent n es c
  closed : ∀ n ∈ built.keys, ∀ t, Refers raw n t → t ∈ built.keys
  acyclic : ∀ n ∈ built.keys, ¬ Relation.TransGen (Refers raw) n n

theorem Sound.nil : Sound raw [] where
  given := by
    intro n c h
    cases h
  closed := by
    intro n hn
    cases hn
  acyclic := by
    intro n hn
    cases hn

/-- What is there leads only to what is there. -/
theorem Sound.mem_of_reflTransGen (h : Sound raw built) (hn : n ∈ built.keys)
    (hr : Relation.ReflTransGen (Refers raw) n t) : t ∈ built.keys := by
  induction hr with
  | refl => exact hn
  | tail _ hlast ih => exact h.closed _ ih _ hlast

/-- **A new component whose targets are there keeps the catalog sound.** -/
theorem Sound.add (h : Sound raw built) (hn : n ∉ built.keys)
    (hraw : raw.get? n = some (.obj es)) (hc : GivesComponent n es c)
    (ht : ∀ t ∈ c.targets, t ∈ built.keys) : Sound raw (built.set n c) where
  given := by
    intro m c' hm
    by_cases hmn : m = n
    · subst hmn
      rw [Entries.get?_set_self] at hm
      cases hm
      exact ⟨es, hraw, hc⟩
    · rw [Entries.get?_set_ne built c hmn] at hm
      exact h.given m c' hm
  closed := by
    intro m hm t hmt
    refine Entries.mem_keys_set.mpr (Or.inl ?_)
    rcases Entries.mem_keys_set.mp hm with hm | rfl
    · exact h.closed m hm t hmt
    · exact ht t ((hc.refers_iff hraw).mp hmt)
  acyclic := by
    intro m hm hcycle
    rcases Entries.mem_keys_set.mp hm with hm | rfl
    · exact h.acyclic m hm hcycle
    · -- The first step of the cycle leads to what is there, and the others stay in it.
      obtain ⟨t, hmt, hback⟩ := Relation.TransGen.head'_iff.mp hcycle
      exact hn (h.mem_of_reflTransGen (ht t ((hc.refers_iff hraw).mp hmt)) hback)

/-- `Extends raw walk built built'`: components are added to `built` and the catalog is sound; those
on the walk wait. -/
structure Extends (raw : Entries Json) (walk : List String) (built built' : Catalog) : Prop where
  sound : Sound raw built'
  keeps : built.keys ⊆ built'.keys
  waits : ∀ n ∈ walk, n ∈ built'.keys → n ∈ built.keys

theorem Extends.refl (h : Sound raw built) : Extends raw walk built built where
  sound := h
  keeps := fun _ hn => hn
  waits := fun _ _ hn => hn

theorem Extends.trans {last : Catalog} (h : Extends raw walk built built')
    (h' : Extends raw walk built' last) : Extends raw walk built last where
  sound := h'.sound
  keeps := List.Subset.trans h.keeps h'.keeps
  waits := fun n hn hl => h.waits n hn (h'.waits n hn hl)

/-- A list of names is built soundly if each of them is. -/
theorem buildNames_extends_of
    (hstep : ∀ built m n built', Sound raw built →
      build raw depth walk built (.str m) = .ok (n, built') →
      n ∈ built'.keys ∧ Extends raw walk built built')
    (hs : Sound raw built) (h : buildNames raw depth walk built ns = .ok built') :
    (∀ n ∈ ns, n ∈ built'.keys) ∧ Extends raw walk built built' := by
  induction ns generalizing built with
  | nil =>
    cases h
    exact ⟨by simp, .refl hs⟩
  | cons m rest ih =>
    rw [buildNames] at h
    split at h
    · cases h
    · next n mid hm =>
      cases eq_of_build_eq_ok hm
      obtain ⟨hmem, hext⟩ := hstep built _ _ mid hs hm
      obtain ⟨hrest, hext'⟩ := ih hext.sound h
      exact ⟨List.forall_mem_cons.mpr ⟨hext'.keeps hmem, hrest⟩, hext.trans hext'⟩

/-- **A call that succeeds keeps the catalog sound**, and the component is there after it. -/
theorem build_extends (hs : Sound raw built)
    (h : build raw depth walk built j = .ok (n, built')) :
    n ∈ built'.keys ∧ Extends raw walk built built' := by
  induction depth generalizing walk built j n built' with
  | zero => cases h
  | succ depth ih =>
    rcases build_eq_ok_cases h with ⟨hn, rfl⟩ | ⟨hn, hw, es, c, mid, hraw, hc, hmid, rfl⟩
    · exact ⟨hn, .refl hs⟩
    · obtain ⟨htargets, hext⟩ := buildNames_extends_of (fun _ _ _ _ => ih) hs hmid
      -- The component has been waiting, being the last one on the walk of its targets.
      have hfresh : n ∉ mid.keys := fun hm => hn (hext.waits n (by simp) hm)
      refine ⟨Entries.mem_keys_set.mpr (Or.inr rfl), ?_⟩
      refine ⟨hext.sound.add hfresh hraw hc htargets, ?_, ?_⟩
      · intro m hm
        exact Entries.mem_keys_set.mpr (Or.inl (hext.keeps hm))
      · intro m hm hmem
        rcases Entries.mem_keys_set.mp hmem with hmem | rfl
        · exact hext.waits m (List.mem_append_left _ hm) hmem
        · exact absurd hm hw

theorem buildNames_extends (hs : Sound raw built)
    (h : buildNames raw depth walk built ns = .ok built') :
    (∀ n ∈ ns, n ∈ built'.keys) ∧ Extends raw walk built built' :=
  buildNames_extends_of (fun _ _ _ _ => build_extends) hs h

/-! ## The whole document -/

/-- A document is loaded by building all its names, one after the other. -/
theorem load_eq {document : Json} (h : components? document = some raw) :
    load document =
      match buildNames raw (raw.length + 1) [] [] raw.keys with
      | .error e => .error e
      | .ok built => .ok (raw.keys.filterMap fun k => (built.get? k).map (k, ·)) := by
  obtain ⟨es, hes, rfl⟩ := components?_eq_some_iff.mp h
  cases hb : buildNames (Entries.ofList es) ((Entries.ofList es).length + 1) [] []
      (Entries.ofList es).keys with
  | error e => simp only [load, hes, buildAll_eq_buildNames, hb]
  | ok built => simp only [load, hes, buildAll_eq_buildNames, hb]

theorem load_eq_of_none {document : Json} (h : components? document = none) :
    load document = .error .noComponents := by
  rw [load]
  split
  · next es hes =>
    rw [components?_eq_some_iff.mpr ⟨es, hes, rfl⟩] at h
    cases h
  · rfl

/-- **A document that is loaded has a sound catalog of all its components.** -/
theorem exists_built_of_load {document : Json} {catalog : Catalog}
    (h : load document = .ok catalog) : ∃ raw built, components? document = some raw ∧
      Sound raw built ∧ raw.keys ⊆ built.keys ∧
      catalog = raw.keys.filterMap fun k => (built.get? k).map (k, ·) := by
  cases hdoc : components? document with
  | none =>
    rw [load_eq_of_none hdoc] at h
    cases h
  | some raw =>
    rw [load_eq hdoc] at h
    split at h
    · cases h
    · next built hbuilt =>
      cases h
      obtain ⟨hall, hext⟩ := buildNames_extends Sound.nil hbuilt
      exact ⟨raw, built, rfl, hext.sound, hall, rfl⟩

/-- What can be built follows the rules for references. -/
theorem Sound.known_and_acyclic (h : Sound raw built) (hall : raw.keys ⊆ built.keys) :
    Known raw ∧ Acyclic raw := by
  constructor
  · intro n t hnt
    obtain ⟨c, hc⟩ := Entries.exists_get?_of_mem (h.closed n (hall hnt.mem_keys) t hnt)
    obtain ⟨es, hraw, _⟩ := h.given t c hc
    exact Entries.mem_keys_of_get? hraw
  · intro n hcycle
    obtain ⟨t, hnt, _⟩ := Relation.TransGen.head'_iff.mp hcycle
    exact h.acyclic n (hall hnt.mem_keys) hcycle

end Document
end ClassModel
