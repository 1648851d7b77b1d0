import ClassModel.Proofs.Registry.Consistent
import Mathlib.Data.List.Induction

/-!
# One name, one language

A name should not be the primary name of one language and an alias of another: the alias would
never lead anywhere, because primary names are looked up first (`apart_iff_resolve`). Nothing in a
registry rules that out. An alias is compared with the primary names, unless it is to be replaced,
and a primary name is compared with no alias.

So it depends on the calls. `Clear` says of a call what it would take: a language that is set is no
alias, and an alias that is set is no primary name. That is exactly what keeps the names apart, at
every single call (`apart_after_iff`) and so along a run (`names_apart_iff`). Removing a language
never brings two names together.
-/

set_option autoImplicit false

namespace ClassModel
namespace Registry

variable {r : Registry} {a key l language : String} {names : List String} {replace : Bool}
  {c : Call}

/-- No name is both a primary name and an alias. -/
def Apart (r : Registry) : Prop := ∀ n ∈ r.primary.keys, n ∉ r.aliases.keys

/-- The call brings no primary name and alias together: if it sets a language, that is no alias, and
the aliases that it may replace are no primary names. -/
def Call.Clear (r : Registry) : Call → Prop
  | .register language generator aliases replace =>
    generator.isSome = true → (Text.lower language ∈ r.primary.keys → replace = true) →
      Text.lower language ∉ r.aliases.keys ∧
      (replace = true → ∀ a ∈ aliases, Text.lower a ≠ Text.lower language →
        Text.lower a ∉ r.primary.keys)
  | .unregister _ => True

/-! ## What a registration adds -/

/-- An alias that is there after a registration was there before, or is one of the names that the
call gives. -/
theorem mem_keys_of_addAliases (h : a ∈ (r.addAliases key replace names).1.aliases.keys) :
    a ∈ r.aliases.keys ∨ a ≠ key ∧ (replace = false → a ∉ r.primary.keys) ∧
      ∃ name ∈ names, Text.lower name = a := by
  have hall : (r.addAliases key replace names).1.primary = r.primary ∧
      ∀ a ∈ (r.addAliases key replace names).1.aliases.keys, a ∈ r.aliases.keys ∨
        a ≠ key ∧ (replace = false → a ∉ r.primary.keys) ∧
          ∃ name ∈ names, Text.lower name = a := by
    refine addAliases_induction (P := fun r' => r'.primary = r.primary ∧
      ∀ a ∈ r'.aliases.keys, a ∈ r.aliases.keys ∨
        a ≠ key ∧ (replace = false → a ∉ r.primary.keys) ∧
          ∃ name ∈ names, Text.lower name = a) ?_ ⟨rfl, fun a ha => Or.inl ha⟩
    intro r' name hr hname hne hprimary
    refine ⟨hr.1, fun a ha => ?_⟩
    rcases Entries.mem_keys_set.mp ha with ha | rfl
    · exact hr.2 a ha
    · exact Or.inr ⟨hne, hr.1 ▸ hprimary, name, hname, rfl⟩
  exact hall.2 a h

theorem keys_subset_addAliases :
    r.aliases.keys ⊆ (r.addAliases key replace names).1.aliases.keys := by
  refine addAliases_induction (P := fun r' => r.aliases.keys ⊆ r'.aliases.keys) ?_
    (List.Subset.refl _)
  intro r' name hsub _ _ _ a ha
  exact Entries.mem_keys_set.mpr (Or.inl (hsub ha))

/-- Aliases that may be replaced are all added. -/
theorem mem_keys_addAliases (ha : a ∈ names) (hne : Text.lower a ≠ key) :
    Text.lower a ∈ (r.addAliases key true names).1.aliases.keys := by
  induction names generalizing r with
  | nil => cases ha
  | cons name rest ih =>
    rw [addAliases]
    split
    · next heq =>
      rcases List.mem_cons.mp ha with rfl | ha
      · exact absurd heq hne
      · exact ih ha
    · rcases List.mem_cons.mp ha with rfl | ha
      · exact keys_subset_addAliases (Entries.mem_keys_set.mpr (Or.inr rfl))
      · exact ih ha

/-! ## One call -/

/-- A registration that takes effect keeps the names apart exactly if it is clear. -/
theorem apart_addAliases_iff (h : r.Apart) (g : Language) :
    (addAliases key replace { r with primary := r.primary.set key g } names).1.Apart ↔
      key ∉ r.aliases.keys ∧
      (replace = true → ∀ a ∈ names, Text.lower a ≠ key → Text.lower a ∉ r.primary.keys) := by
  constructor
  · intro hapart
    rw [Apart, primary_addAliases] at hapart
    constructor
    · intro hkey
      exact hapart key (Entries.mem_keys_set.mpr (Or.inr rfl)) (keys_subset_addAliases hkey)
    · rintro rfl a ha hne hmem
      exact hapart _ (Entries.mem_keys_set.mpr (Or.inl hmem)) (mem_keys_addAliases ha hne)
  · rintro ⟨hkey, hnames⟩ n hn hmem
    rw [primary_addAliases] at hn
    rcases mem_keys_of_addAliases hmem with hold | ⟨hne, hkept, a, ha, rfl⟩
    · rcases Entries.mem_keys_set.mp hn with hn | rfl
      · exact h n hn hold
      · exact hkey hold
    · cases replace with
      | false => exact hkept rfl hn
      | true => exact hnames rfl a ha hne ((Entries.mem_keys_set.mp hn).resolve_right hne)

theorem Apart.unregister (h : r.Apart) : (r.unregister language).Apart := by
  intro n hn hmem
  obtain ⟨t, ht⟩ := Entries.mem_keys_iff.mp hmem
  exact h n (Entries.mem_keys_erase.mp hn).1
    (Entries.mem_keys_iff.mpr ⟨t, List.mem_of_mem_filter ht⟩)

/-- **A call keeps the names apart exactly if it is clear.** -/
theorem apart_after_iff (h : r.Apart) : (r.after c).Apart ↔ c.Clear r := by
  cases c with
  | unregister language => exact iff_of_true h.unregister trivial
  | register language generator aliases replace =>
    rw [after, Call.Clear]
    rcases register_cases r language generator aliases replace with ⟨hr, hkeep⟩ | ⟨g, hg, hset, hr⟩
    · rw [hr]
      refine iff_of_true h fun hsome hreplace => ?_
      rcases hkeep with rfl | ⟨hmem, rfl⟩
      · cases hsome
      · cases hreplace hmem
    · rw [hr, apart_addAliases_iff h g, hg]
      exact ⟨fun hclear _ _ => hclear, fun hclear => hclear rfl hset⟩

/-! ## What it means for a look-up -/

theorem mem_aliasesOf : a ∈ r.aliasesOf l ↔ (a, Text.lower l) ∈ r.aliases := by
  rw [aliasesOf, mem_ascendingTexts]
  simp

/-- **The names are apart exactly if every alias of a language leads to it.** -/
theorem apart_iff_resolve (hr : r.Consistent) :
    r.Apart ↔ ∀ l ∈ r.languages, ∀ a ∈ r.aliasesOf l, r.resolve a = .ok l := by
  constructor
  · intro h l hl a ha
    rw [languages, mem_ascendingTexts] at hl
    rw [mem_aliasesOf, hr.primary_lower l hl] at ha
    have hkey : a ∈ r.aliases.keys := Entries.mem_keys_iff.mpr ⟨l, ha⟩
    have hlower : Text.lower a = a := hr.alias_lower a hkey
    refine resolve_of_alias ?_ ?_
    · rw [hlower]
      exact fun hp => h a hp hkey
    · rw [hlower]
      exact (Entries.get?_eq_some_iff hr.distinct).mpr ha
  · intro h n hn hmem
    obtain ⟨t, ht⟩ := Entries.mem_keys_iff.mp hmem
    have htp : t ∈ r.primary.keys := hr.points _ ht
    have hlead : r.resolve n = .ok t := by
      refine h t (mem_ascendingTexts.mpr htp) n (mem_aliasesOf.mpr ?_)
      rw [hr.primary_lower t htp]
      exact ht
    -- Being a primary name, it leads to itself.
    have hlower : Text.lower n = n := hr.primary_lower n hn
    rw [resolve_of_primary (hlower.symm ▸ hn), hlower] at hlead
    exact hr.other _ ht (Except.ok.inj hlead)

/-- A language that is removed is supported after that exactly if its name was an alias. -/
theorem isSupported_unregister_iff (hr : r.Consistent) :
    (r.unregister l).isSupported l = true ↔ Text.lower l ∈ r.aliases.keys := by
  rw [isSupported_iff]
  constructor
  · rintro (hp | ha)
    · exact absurd rfl (Entries.mem_keys_erase.mp hp).2
    · obtain ⟨t, ht⟩ := Entries.mem_keys_iff.mp ha
      exact Entries.mem_keys_iff.mpr ⟨t, List.mem_of_mem_filter ht⟩
  · intro ha
    obtain ⟨t, ht⟩ := Entries.mem_keys_iff.mp ha
    have hne : t ≠ Text.lower l := Ne.symm (hr.other _ ht)
    exact Or.inr (Entries.mem_keys_iff.mpr ⟨t, List.mem_filter.mpr ⟨ht, bne_iff_ne.mpr hne⟩⟩)

/-! ## Runs of calls -/

theorem run_snoc (r : Registry) (calls : List Call) (c : Call) :
    r.run (calls ++ [c]) = (r.run calls).after c := by
  rw [run, run, List.foldl_append, List.foldl_cons, List.foldl_nil]

/-- **The names stay apart exactly as long as every call is clear** in the registry that it finds.
In every registry that calls lead to they are apart exactly if every alias of a language leads to
it, and a language that is removed is supported after that exactly if its name was an alias. -/
theorem names_apart_iff (calls : List Call) :
    ((∀ before, before <+: calls → (run {} before).Apart) ↔
      ∀ before c, before ++ [c] <+: calls → c.Clear (run {} before)) ∧
    ((run {} calls).Apart ↔ ∀ l ∈ (run {} calls).languages, ∀ a ∈ (run {} calls).aliasesOf l,
      (run {} calls).resolve a = .ok l) ∧
    ∀ l, ((run {} calls).unregister l).isSupported l = true ↔
      Text.lower l ∈ (run {} calls).aliases.keys := by
  have hr : (run {} calls).Consistent := Consistent.empty.run calls
  refine ⟨⟨fun hapart before c hc => ?_, fun hclear before hbefore => ?_⟩, apart_iff_resolve hr,
    fun l => isSupported_unregister_iff hr⟩
  · have hpre : before <+: calls := (List.prefix_append before [c]).trans hc
    rw [← apart_after_iff (hapart before hpre), ← run_snoc]
    exact hapart _ hc
  · induction before using List.reverseRecOn with
    | nil =>
      intro n hn
      cases hn
    | append_singleton before c ih =>
      have hpre : before <+: calls := (List.prefix_append before [c]).trans hbefore
      rw [run_snoc, apart_after_iff (ih hpre)]
      exact hclear before c hbefore

/-- **A name may become both**: a language is registered under the alias of another one, and the
alias does not lead to its language any more. -/
theorem not_all_names_apart :
    ¬ ∀ calls, (run {} calls).Apart ∧ ∀ l ∈ (run {} calls).languages,
      ∀ a ∈ (run {} calls).aliasesOf l, (run {} calls).resolve a = .ok l := by
  intro hall
  obtain ⟨hapart, _⟩ := hall [.register "kotlin" (some .kotlin) ["kt"] false,
    .register "kt" (some .python) [] false]
  exact hapart "kt" (by decide) (by decide)

end Registry
end ClassModel
