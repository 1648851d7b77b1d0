import ClassModel.Proofs.Settings.Layers

/-!
# Which layer counts

A setting should have the value of the highest layer that sets it: the overrides, then the file,
then the defaults of the language. For settings that is so. An option that the file sets by a key of
its own keeps that value even if the overrides list another one, because keys of their own are
counted last. Then the file `Outdoes` the overrides, and this is the only case in which the highest
layer does not count (`load_precedence_iff`).
-/

set_option autoImplicit false

namespace ClassModel

variable {k : String} {base : Layer}

namespace Settings

/-! ## Where the layers come from -/

theorem nodup_keys_of_entries? {j : Json} {es : Entries Json} (h : j.entries? = some es) :
    es.keys.Nodup := by
  cases j with
  | obj members =>
    cases h
    exact Entries.nodup_keys_ofList members
  | _ => cases h

theorem nodup_keys_of_overrideLayer {overrides : Json} {o : Layer}
    (h : overrideLayer overrides = .ok (some o)) : o.keys.Nodup := by
  rw [overrideLayer] at h
  split at h
  · cases h
  · split at h
    · cases h
    · next es hes =>
      cases h
      exact nodup_keys_of_entries? hes

theorem nodup_keys_of_readLayer {files : Files.Tree} {path : Files.Path} {f : Layer}
    (h : readLayer files path = .ok f) : f.keys.Nodup := by
  rw [readLayer] at h
  repeat' split at h
  all_goals try cases h
  next hes => exact nodup_keys_of_entries? hes

theorem nodup_keys_of_fileLayer {files : Files.Tree} {file : Json} {f : Layer}
    (h : fileLayer files file = .ok (some f)) : f.keys.Nodup := by
  rw [fileLayer] at h
  split at h
  · cases h
  · split at h
    · cases h
    · next path _ =>
      cases hread : readLayer files path with
      | error e =>
        rw [hread] at h
        cases h
      | ok f' =>
        rw [hread] at h
        cases h
        exact nodup_keys_of_readLayer hread

/-- The built-in layer of a language sets options in its object of options only. -/
theorem defaultsOf_spec {language : Json} (h : Layer.defaultsOf language = .ok base) :
    base.keys.Nodup ∧ base.topOption? k = none := by
  have hcases : base = [] ∨ ∃ l, base = Layer.defaults l := by
    cases language with
    | str name =>
      cases h
      cases Language.ofName? name with
      | none => exact Or.inl rfl
      | some l => exact Or.inr ⟨l, rfl⟩
    | _ =>
      simp only [Layer.defaultsOf] at h
      split at h
      · cases h
      · cases h
        exact Or.inl rfl
  have hbase : base.keys.Nodup ∧ base.keys ⊆ keys := by
    rcases hcases with rfl | ⟨l, rfl⟩
    · exact ⟨List.nodup_nil, List.nil_subset keys⟩
    · cases l <;> exact ⟨by decide, by decide⟩
  refine ⟨hbase.1, ?_⟩
  rw [Layer.topOption?]
  split
  · rfl
  · next hk => exact Entries.get?_eq_none_of_notMem fun hm => hk (hbase.2 hm)

/-! ## Options -/

variable {file above : Option Layer}

/-- The layers, the highest first. -/
def layers (base : Layer) (file above : Option Layer) : List Layer :=
  above.toList ++ file.toList ++ [base]

/-- The file outdoes the overrides at an option: these set it in their object of options only, and
the file sets it to something else by a key of its own. -/
def Outdoes (file above : Option Layer) (k : String) : Prop :=
  ∃ f o v w, file = some f ∧ above = some o ∧ f.topOption? k = some v ∧ o.topOption? k = none ∧
    o.listedOption? k = some w ∧ v ≠ w

/-- **An option has the value of the highest layer that sets it**, unless the file outdoes the
overrides. -/
theorem option?_merged_eq_iff (hbase : base.topOption? k = none)
    (ha : ∀ o ∈ above.toList ++ file.toList, o.keys.Nodup) :
    (merged base (above.toList ++ file.toList)).option? k =
        (layers base file above).findSome? (·.option? k) ↔ ¬ Outdoes file above k := by
  have hor := findSome?_cons_eq_or
  rw [option?_merged ha]
  cases above with
  | none =>
    refine iff_of_true ?_ ?_
    · cases file with
      | none => simp [layers, hor, Layer.option?, hbase]
      | some f => cases hf : f.topOption? k <;> simp [layers, hor, Layer.option?, hbase, hf]
    · rintro ⟨_, _, _, _, _, hnone, _⟩
      cases hnone
  | some o =>
    cases file with
    | none =>
      refine iff_of_true ?_ ?_
      · cases ho : o.topOption? k <;> simp [layers, hor, Layer.option?, hbase, ho]
      · rintro ⟨_, _, _, _, hnone, _⟩
        cases hnone
    | some f =>
      have hiff : Outdoes (some f) (some o) k ↔ ∃ v w, f.topOption? k = some v ∧
          o.topOption? k = none ∧ o.listedOption? k = some w ∧ v ≠ w := by
        simp [Outdoes]
      rw [hiff]
      -- Only a key of its own in the file counts before the options of the overrides.
      cases ho : o.topOption? k with
      | some v => simp [layers, hor, Layer.option?, ho]
      | none =>
        cases hf : f.topOption? k with
        | none => simp [layers, hor, Layer.option?, hbase, ho, hf]
        | some v => cases hw : o.listedOption? k <;> simp [layers, hor, Layer.option?, ho, hf, hw]

theorem load_eq {files : Files.Tree} {language overrides file : Json}
    {fromFile above : Option Layer}
    (hbase : Layer.defaultsOf language = .ok base) (hfile : fileLayer files file = .ok fromFile)
    (hover : overrideLayer overrides = .ok above) :
    load files language overrides file =
      .ok (ofLayer (merged base (above.toList ++ fromFile.toList))) := by
  rw [load, hbase]
  dsimp only
  rw [hfile]
  dsimp only
  rw [hover]
  cases fromFile <;> cases above <;> rfl

/-- **Which layer counts.** With the overrides above the file and the file above the defaults, every
setting has the value of the highest layer that sets it, or its standard one, and the options are
those that some layer sets. An option has the value of the highest layer that sets it exactly if the
file does not outdo the overrides. -/
theorem load_precedence_iff {files : Files.Tree} {language overrides file : Json}
    {fromFile above : Option Layer} (hbase : Layer.defaultsOf language = .ok base)
    (hfile : fileLayer files file = .ok fromFile) (hover : overrideLayer overrides = .ok above) :
    ∃ s, load files language overrides file = .ok s ∧
      (∀ e ∈ fields, e.2 s =
        ((layers base fromFile above).findSome? (·.get? e.1)).getD (e.2 {})) ∧
      (∀ k, k ∈ s.custom.keys ↔
        ∃ l ∈ layers base fromFile above, (l.option? k).isSome = true) ∧
      ∀ k, s.custom.get? k = (layers base fromFile above).findSome? (·.option? k) ↔
        ¬ Outdoes fromFile above k := by
  have ha : ∀ o ∈ above.toList ++ fromFile.toList, o.keys.Nodup := by
    intro o ho
    rcases List.mem_append.mp ho with ho | ho
    · obtain rfl := Option.mem_toList.mp ho
      exact nodup_keys_of_overrideLayer hover
    · obtain rfl := Option.mem_toList.mp ho
      exact nodup_keys_of_fileLayer hfile
  have hmerged : (merged base (above.toList ++ fromFile.toList)).keys.Nodup :=
    nodup_keys_merged (defaultsOf_spec (k := "") hbase).1
  refine ⟨_, load_eq hbase hfile hover, fun e he => ?_, fun k => ?_, fun k => ?_⟩
  · have hne : e.1 ≠ Layer.customKey := by
      have hall : ∀ e ∈ fields, e.1 ≠ Layer.customKey := by decide
      exact hall e he
    rw [field_ofLayer he]
    rw [findSome?_layers (·.get? e.1) (fun _ _ h => Layer.get?_under h hne) ha]
    rfl
  · rw [← Entries.has_iff, Entries.has, custom_ofLayer hmerged]
    exact isSome_option?_merged_iff ha
  · rw [custom_ofLayer hmerged]
    exact option?_merged_eq_iff (defaultsOf_spec hbase).2 ha

end Settings

/-! ## A file with a key of its own -/

namespace FrozenFile

def files : Files.Tree where
  nodes := [(Files.somewhere ++ ["conf.json"],
    .file (.text "\x7b\"frozen\": true, \"indent_size\": 2\x7d"))]

def layer : Layer := [("frozen", .bool true), ("indent_size", .int 2)]

/-- Overrides with one option. -/
def overrides (option : String) (value : Json) : Json :=
  .obj [("custom", .obj [(option, value)])]

/-- Is it the layer of the file? -/
def isLayer : Except Settings.Fault (Option Layer) → Bool
  | .ok (some [("frozen", .bool true), ("indent_size", .int 2)]) => true
  | _ => false

theorem eq_of_isLayer {r : Except Settings.Fault (Option Layer)} (h : isLayer r = true) :
    r = .ok (some layer) := by
  unfold isLayer at h
  split at h
  · rfl
  · cases h

theorem fileLayer_files : Settings.fileLayer files (.str "conf.json") = .ok (some layer) :=
  eq_of_isLayer (by decide +kernel)

end FrozenFile

namespace Settings

open FrozenFile

/-- Overrides that list another option than the file: both count, each above the defaults. -/
theorem kwOnly_frozen : ∃ s,
    load files (.str "python") (overrides "kw_only" (.bool false)) (.str "conf.json") = .ok s ∧
      s.indentSize = .int 2 ∧ s.custom.get? "kw_only" = some (.bool false) ∧
      s.custom.get? "frozen" = some (.bool true) := by
  have hbase : Layer.defaultsOf (.str "python") = .ok (Layer.defaults .python) := rfl
  have hover : overrideLayer (overrides "kw_only" (.bool false)) =
      .ok (some [("custom", .obj [("kw_only", .bool false)])]) := rfl
  obtain ⟨s, hload, hfields, _, hoptions⟩ := load_precedence_iff hbase fileLayer_files hover
  have hindent : ("indent_size", fun s : Settings => s.indentSize) ∈ fields := by
    simp [fields]
  refine ⟨s, hload, hfields _ hindent, (hoptions "kw_only").mpr ?_, (hoptions "frozen").mpr ?_⟩
  · rintro ⟨f, o, v, w, hf, _, hv, _⟩
    cases hf
    cases hv
  · rintro ⟨f, o, v, w, _, ho, _, _, hw, _⟩
    cases ho
    cases hw

/-- **Overrides need not count**: a key of its own in the file counts before the object of options
above it. -/
theorem not_all_options_by_precedence :
    ¬ ∀ (files : Files.Tree) (language overrides file : Json) (base : Layer)
      (fromFile above : Option Layer) (s : Settings) (k : String),
      Layer.defaultsOf language = .ok base → fileLayer files file = .ok fromFile →
      overrideLayer overrides = .ok above → load files language overrides file = .ok s →
      s.custom.get? k = (layers base fromFile above).findSome? (·.option? k) := by
  intro hall
  have hbase : Layer.defaultsOf (.str "python") = .ok (Layer.defaults .python) := rfl
  have hover : overrideLayer (overrides "frozen" (.bool false)) =
      .ok (some [("custom", .obj [("frozen", .bool false)])]) := rfl
  have hfrozen := hall _ _ _ _ _ _ _ _ "frozen" hbase fileLayer_files hover
    (load_eq hbase fileLayer_files hover)
  change some (Json.bool true) = some (Json.bool false) at hfrozen
  cases hfrozen

end Settings
end ClassModel
