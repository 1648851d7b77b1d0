import ClassModel.Proofs.Ascending
import ClassModel.Proofs.Entries
import ClassModel.Proofs.Text.LowerCase
import ClassModel.Registry

/-!
# Names of a registry lead to generators

A registry is changed by calls, some of which refuse after they have changed a part of it. Whatever
the calls, the registry stays `Consistent`: its names are in lower case, and an alias points to
another name, which is a primary one (`Consistent.after`, `Consistent.run`). Aliases are added one
by one, up to the first conflict, so what a registration keeps is shown for one alias at a time
(`addAliases_induction`).

In a consistent registry the three ways to look a name up agree (`lookups_agree`): a name is
supported, or leads to a primary name, or has a generator, all at once, and no alias is left that
points to nothing.
-/

set_option autoImplicit false

namespace ClassModel
namespace Registry

variable {r : Registry} {language key name s : String} {names : List String} {replace : Bool}

/-! ## Calls -/

/-- A call that changes a registry. -/
inductive Call
  | register (language : String) (generator : Option Language) (aliases : List String)
      (replace : Bool)
  | unregister (language : String)

/-- The registry after a call, whether the call refused or not. -/
def after (r : Registry) : Call → Registry
  | .register language generator aliases replace =>
    (r.register language generator aliases replace).1
  | .unregister language => r.unregister language

/-- The registry after calls. -/
def run (r : Registry) (calls : List Call) : Registry := calls.foldl after r

/-- The registry with one more alias of a language. -/
def point (r : Registry) (name language : String) : Registry :=
  { r with aliases := r.aliases.set (Text.lower name) language }

/-- **What holds before aliases are added and is kept by each of them holds after all that are
added.** An alias is not the language itself, and unless it may be replaced it is no primary
name. -/
theorem addAliases_induction {P : Registry → Prop}
    (hpoint : ∀ r name, P r → name ∈ names → Text.lower name ≠ key →
      (replace = false → Text.lower name ∉ r.primary.keys) → P (r.point name key))
    (h : P r) : P (r.addAliases key replace names).1 := by
  induction names generalizing r with
  | nil => exact h
  | cons name rest ih =>
    have hrest : ∀ {r}, P r → P (r.addAliases key replace rest).1 :=
      ih fun r n hr hn => hpoint r n hr (List.mem_cons_of_mem name hn)
    rw [addAliases]
    split
    · exact hrest h
    · next hne =>
      split
      · exact h
      · next hprimary =>
        split
        · exact h
        · refine hrest (hpoint r name h List.mem_cons_self hne fun hr hmem => hprimary ?_)
          rw [hr, Entries.has_iff.mpr hmem]
          rfl

theorem primary_addAliases : (r.addAliases key replace names).1.primary = r.primary :=
  addAliases_induction (P := fun r' => r'.primary = r.primary) (fun _ _ h _ _ _ => h) rfl

/-- **What a registration does**: nothing, if it has no generator or the language is there and is
to be kept, and else it sets the generator and adds the aliases. -/
theorem register_cases (r : Registry) (language : String) (generator : Option Language)
    (names : List String) (replace : Bool) :
    (r.register language generator names replace).1 = r ∧
      (generator = none ∨ Text.lower language ∈ r.primary.keys ∧ replace = false) ∨
    ∃ g, generator = some g ∧ (Text.lower language ∈ r.primary.keys → replace = true) ∧
      (r.register language generator names replace).1 =
        (addAliases (Text.lower language) replace
          { r with primary := r.primary.set (Text.lower language) g } names).1 := by
  cases generator with
  | none => exact Or.inl ⟨rfl, Or.inl rfl⟩
  | some g =>
    rw [register]
    split
    · next h =>
      rw [Bool.and_eq_true, Entries.has_iff, Bool.not_eq_true'] at h
      exact Or.inl ⟨rfl, Or.inr h⟩
    · next h =>
      refine Or.inr ⟨g, rfl, fun hmem => ?_, rfl⟩
      cases hr : replace with
      | true => rfl
      | false =>
        rw [Entries.has_iff.mpr hmem, hr] at h
        exact absurd rfl h

/-! ## Consistent registries -/

/-- Names are in lower case, an alias stands once, and points to another name, which is a primary
one. -/
structure Consistent (r : Registry) : Prop where
  primary_lower : ∀ p ∈ r.primary.keys, Text.lower p = p
  alias_lower : ∀ a ∈ r.aliases.keys, Text.lower a = a
  distinct : r.aliases.keys.Nodup
  points : ∀ e ∈ r.aliases, e.2 ∈ r.primary.keys
  other : ∀ e ∈ r.aliases, e.1 ≠ e.2

theorem Consistent.empty : Consistent {} where
  primary_lower := fun _ h => by cases h
  alias_lower := fun _ h => by cases h
  distinct := List.nodup_nil
  points := fun _ h => by cases h
  other := fun _ h => by cases h

theorem Consistent.point (h : r.Consistent) (hkey : key ∈ r.primary.keys)
    (hne : Text.lower name ≠ key) : (r.point name key).Consistent where
  primary_lower := h.primary_lower
  alias_lower := by
    intro a ha
    rcases Entries.mem_keys_set.mp ha with ha | rfl
    · exact h.alias_lower a ha
    · exact Text.lower_lower name
  distinct := Entries.nodup_keys_set h.distinct _ _
  points := by
    intro e he
    rcases Entries.mem_or_eq_of_mem_set he with he | rfl
    · exact h.points e he
    · exact hkey
  other := by
    intro e he
    rcases Entries.mem_or_eq_of_mem_set he with he | rfl
    · exact h.other e he
    · exact hne

/-- A language is set before its aliases are, so these point to a primary name. -/
theorem Consistent.addAliases (h : r.Consistent) (hkey : key ∈ r.primary.keys) :
    (r.addAliases key replace names).1.Consistent := by
  have hall : key ∈ (r.addAliases key replace names).1.primary.keys ∧
      (r.addAliases key replace names).1.Consistent := by
    refine addAliases_induction (P := fun r => key ∈ r.primary.keys ∧ r.Consistent) ?_ ⟨hkey, h⟩
    intro r name hr _ hne _
    exact ⟨hr.1, hr.2.point hr.1 hne⟩
  exact hall.2

theorem Consistent.setPrimary (h : r.Consistent) (g : Language) :
    Consistent { r with primary := r.primary.set (Text.lower language) g } where
  primary_lower := by
    intro p hp
    rcases Entries.mem_keys_set.mp hp with hp | rfl
    · exact h.primary_lower p hp
    · exact Text.lower_lower language
  alias_lower := h.alias_lower
  distinct := h.distinct
  points := fun e he => Entries.mem_keys_set.mpr (Or.inl (h.points e he))
  other := h.other

/-- The aliases that point to a language go with it. -/
theorem Consistent.unregister (h : r.Consistent) : (r.unregister language).Consistent where
  primary_lower := fun p hp => h.primary_lower p (Entries.mem_keys_erase.mp hp).1
  alias_lower := by
    intro a ha
    obtain ⟨t, ht⟩ := Entries.mem_keys_iff.mp ha
    exact h.alias_lower a (Entries.mem_keys_iff.mpr ⟨t, List.mem_of_mem_filter ht⟩)
  distinct := Entries.nodup_keys_filter h.distinct _
  points := by
    intro e he
    obtain ⟨he, hne⟩ := List.mem_filter.mp he
    exact Entries.mem_keys_erase.mpr ⟨h.points e he, bne_iff_ne.mp hne⟩
  other := fun e he => h.other e (List.mem_of_mem_filter he)

/-- **A call keeps a registry consistent**, also one that refuses half-way. -/
theorem Consistent.after (h : r.Consistent) (c : Call) : (r.after c).Consistent := by
  cases c with
  | register language generator aliases replace =>
    rw [Registry.after]
    rcases register_cases r language generator aliases replace with ⟨hr, _⟩ | ⟨g, _, _, hr⟩
    · rw [hr]
      exact h
    · rw [hr]
      exact (h.setPrimary g).addAliases (Entries.mem_keys_set.mpr (Or.inr rfl))
  | unregister language => exact h.unregister

theorem Consistent.run (h : r.Consistent) (calls : List Call) : (r.run calls).Consistent := by
  induction calls generalizing r with
  | nil => exact h
  | cons c rest ih => exact ih (h.after c)

/-! ## Looking a name up -/

theorem isSupported_iff : r.isSupported s = true ↔
    Text.lower s ∈ r.primary.keys ∨ Text.lower s ∈ r.aliases.keys := by
  rw [isSupported, Bool.or_eq_true, Entries.has_iff, Entries.has_iff]

theorem resolve_of_primary (h : Text.lower s ∈ r.primary.keys) :
    r.resolve s = .ok (Text.lower s) := by
  rw [resolve]
  exact if_pos (Entries.has_iff.mpr h)

theorem resolve_of_alias {t : String} (h : Text.lower s ∉ r.primary.keys)
    (ht : r.aliases.get? (Text.lower s) = some t) : r.resolve s = .ok t := by
  rw [resolve, if_neg (mt Entries.has_iff.mp h), ht]

theorem resolve_of_unknown (h : Text.lower s ∉ r.primary.keys)
    (h' : Text.lower s ∉ r.aliases.keys) :
    r.resolve s = .error (.unknownLanguage s r.languages) := by
  rw [resolve, if_neg (mt Entries.has_iff.mp h), Entries.get?_eq_none_of_notMem h']

theorem generatorOf_of_resolve {p : String} (h : r.resolve s = .ok p) (hp : p ∈ r.primary.keys) :
    ∃ g, r.primary.get? p = some g ∧ r.generatorOf s = .ok g := by
  obtain ⟨g, hg⟩ := Entries.exists_get?_of_mem hp
  refine ⟨g, hg, ?_⟩
  rw [generatorOf, h]
  dsimp only
  rw [hg]

theorem Consistent.exists_resolve (h : r.Consistent) (hs : r.isSupported s = true) :
    ∃ p ∈ r.primary.keys, r.resolve s = .ok p := by
  by_cases hp : Text.lower s ∈ r.primary.keys
  · exact ⟨_, hp, resolve_of_primary hp⟩
  · have ha : Text.lower s ∈ r.aliases.keys := (isSupported_iff.mp hs).resolve_left hp
    obtain ⟨t, ht⟩ := Entries.exists_get?_of_mem ha
    have hmem : (Text.lower s, t) ∈ r.aliases := (Entries.get?_eq_some_iff h.distinct).mp ht
    exact ⟨t, h.points _ hmem, resolve_of_alias hp ht⟩

/-- **The look-ups of a name agree, after whatever calls.** Every alias points to a primary name. A
name that is supported leads to a primary name, which leads to itself, and both have its generator.
Of a name that is not, both look-ups say that it is unknown. -/
theorem lookups_agree (calls : List Call) (s : String) :
    let r := run {} calls
    (∀ e ∈ r.aliases, e.2 ∈ r.primary.keys) ∧
    (r.isSupported s = true ∧ (∃ p g, r.primary.get? p = some g ∧ r.resolve s = .ok p ∧
        r.resolve p = .ok p ∧ r.generatorOf s = .ok g ∧ r.generatorOf p = .ok g) ∨
      r.isSupported s = false ∧ r.resolve s = .error (.unknownLanguage s r.languages) ∧
        r.generatorOf s = .error (.unknownLanguage s r.languages)) := by
  have hr : (run {} calls).Consistent := Consistent.empty.run calls
  intro r
  refine ⟨hr.points, ?_⟩
  cases hs : r.isSupported s with
  | true =>
    obtain ⟨p, hp, hresolve⟩ := hr.exists_resolve hs
    have hself : r.resolve p = .ok p := by
      have hlower : Text.lower p = p := hr.primary_lower p hp
      have hmem : Text.lower p ∈ r.primary.keys := hlower.symm ▸ hp
      rw [resolve_of_primary hmem, hlower]
    obtain ⟨g, hg, hgen⟩ := generatorOf_of_resolve hresolve hp
    obtain ⟨g', hg', hgen'⟩ := generatorOf_of_resolve hself hp
    rw [hg] at hg'
    cases hg'
    exact Or.inl ⟨rfl, p, g, hg, hresolve, hself, hgen, hgen'⟩
  | false =>
    have hnot : ¬ (Text.lower s ∈ r.primary.keys ∨ Text.lower s ∈ r.aliases.keys) := by
      rw [← isSupported_iff, hs]
      exact Bool.false_ne_true
    obtain ⟨hp, ha⟩ := not_or.mp hnot
    have hresolve := resolve_of_unknown hp ha
    refine Or.inr ⟨rfl, hresolve, ?_⟩
    rw [generatorOf, hresolve]

end Registry
end ClassModel
