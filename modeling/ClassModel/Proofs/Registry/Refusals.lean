import ClassModel.Proofs.Registry.Consistent

/-!
# What a refused registration leaves behind

A registration refuses something that is no generator before it changes anything. An alias it
refuses only when it comes to it: by then the language is there, and so are the aliases before the
one that is refused (`refusal_of_addAliases`). So a refusal leaves the registry as it was exactly if
there was no generator (`refusal_keeps_iff`). After any other one the language counts as registered,
and registering it again, with whatever aliases, does nothing and reports nothing.
-/

set_option autoImplicit false

namespace ClassModel
namespace Registry

variable {r : Registry} {key language name : String} {names : List String} {replace : Bool}
  {generator : Option Language} {f : Fault}

/-- What a registry has against an alias of the language `key`: it is a primary name, or an alias
of another language. -/
def Denies (r : Registry) (key name : String) : Fault → Prop
  | .aliasIsPrimary n => n = name ∧ Text.lower name ≠ key ∧ Text.lower name ∈ r.primary.keys
  | .aliasTaken n target => n = name ∧ Text.lower name ≠ key ∧ target ≠ key ∧
      r.aliases.get? (Text.lower name) = some target
  | _ => False

theorem getD_alias_ne_iff : r.aliases.getD name key ≠ key ↔
    ∃ target, r.aliases.get? name = some target ∧ target ≠ key := by
  rw [Entries.getD]
  cases r.aliases.get? name <;> simp

/-- **One alias** is the language itself and passed over, or is refused, or is added; what comes
after it has no part in that. -/
theorem alias_cases (r : Registry) (key name : String) (replace : Bool) :
    (∀ rest, r.addAliases key replace (name :: rest) = r.addAliases key replace rest) ∨
    (replace = false ∧ ∃ f, r.Denies key name f ∧
      ∀ rest, r.addAliases key replace (name :: rest) = (r, some f)) ∨
    ∀ rest, r.addAliases key replace (name :: rest) =
      (r.point name key).addAliases key replace rest := by
  by_cases hkey : Text.lower name = key
  · refine Or.inl fun rest => ?_
    rw [addAliases, if_pos hkey]
  by_cases hprimary : (!replace && r.primary.has (Text.lower name)) = true
  · obtain ⟨hreplace, hmem⟩ := Bool.and_eq_true_iff.mp hprimary
    refine Or.inr (Or.inl ⟨by simpa using hreplace, .aliasIsPrimary name,
      ⟨rfl, hkey, Entries.has_iff.mp hmem⟩, fun rest => ?_⟩)
    rw [addAliases, if_neg hkey, if_pos hprimary]
  by_cases htaken : (!replace && r.aliases.getD (Text.lower name) key != key) = true
  · obtain ⟨hreplace, hother⟩ := Bool.and_eq_true_iff.mp htaken
    obtain ⟨target, hget, hne⟩ := getD_alias_ne_iff.mp (bne_iff_ne.mp hother)
    have htarget : r.aliases.getD (Text.lower name) key = target := by rw [Entries.getD, hget]; rfl
    refine Or.inr (Or.inl ⟨by simpa using hreplace, .aliasTaken name target,
      ⟨rfl, hkey, hne, hget⟩, fun rest => ?_⟩)
    rw [addAliases, if_neg hkey, if_neg hprimary, if_pos htaken, htarget]
  · refine Or.inr (Or.inr fun rest => ?_)
    rw [addAliases, if_neg hkey, if_neg hprimary, if_neg htaken]
    rfl

/-- **Aliases are refused one at a time**: those before the one that is refused have been added. -/
theorem refusal_of_addAliases (h : (r.addAliases key replace names).2 = some f) :
    replace = false ∧ ∃ before name rest, names = before ++ name :: rest ∧
      (r.addAliases key replace names).1.Denies key name f ∧
      r.addAliases key replace before = ((r.addAliases key replace names).1, none) := by
  -- Names that are passed over or added join those before the refused one; the registry grows.
  induction names generalizing r with
  | nil => cases h
  | cons name names ih =>
    rcases alias_cases r key name replace with hskip | ⟨hreplace, g, hdenies, hrefuse⟩ | hadd
    · rw [hskip] at h ⊢
      obtain ⟨hreplace, before, denied, rest, rfl, hdenies, hbefore⟩ := ih h
      exact ⟨hreplace, name :: before, denied, rest, rfl, hdenies, (hskip before).trans hbefore⟩
    · rw [hrefuse] at h ⊢
      cases h
      exact ⟨hreplace, [], name, names, rfl, hdenies, rfl⟩
    · rw [hadd] at h ⊢
      obtain ⟨hreplace, before, denied, rest, rfl, hdenies, hbefore⟩ := ih h
      exact ⟨hreplace, name :: before, denied, rest, rfl, hdenies, (hadd before).trans hbefore⟩

/-- A language that is there is kept, and nothing is reported. -/
theorem register_of_mem (h : Text.lower language ∈ r.primary.keys) (g : Language)
    (names : List String) : r.register language (some g) names false = (r, none) := by
  rw [register, if_pos (by rw [Entries.has_iff.mpr h]; rfl)]

/-- **A refused registration leaves the registry as it was exactly if there was no generator.**
Otherwise an alias was refused; the language has been set, with the aliases before that one, as if
the registration had asked for those only. Registering the language again then does nothing and
reports nothing, whatever its aliases. -/
theorem refusal_keeps_iff (h : (r.register language generator names replace).2 = some f) :
    let left := (r.register language generator names replace).1
    (left = r ↔ generator = none) ∧
    ∀ g, generator = some g → replace = false ∧ Text.lower language ∉ r.primary.keys ∧
      ∃ before name rest, names = before ++ name :: rest ∧
        left.Denies (Text.lower language) name f ∧
        r.register language (some g) before false = (left, none) ∧
        ∀ g' again, left.register language (some g') again false = (left, none) := by
  intro left
  cases generator with
  | none => exact ⟨iff_of_true rfl rfl, fun g hg => by cases hg⟩
  | some g =>
    rw [register] at h
    split at h
    · cases h
    · next hset =>
      -- The language is set before its aliases are looked at, so it is there whichever is refused.
      have hleft : left = (addAliases (Text.lower language) replace
          { r with primary := r.primary.set (Text.lower language) g } names).1 := by
        rw [show left = (r.register language (some g) names replace).1 from rfl, register,
          if_neg hset]
      obtain ⟨rfl, before, name, rest, hnames, hdenies, hbefore⟩ := refusal_of_addAliases h
      rw [← hleft] at hdenies hbefore
      have hnew : Text.lower language ∉ r.primary.keys := by
        intro hmem
        rw [Entries.has_iff.mpr hmem] at hset
        exact hset rfl
      have hthere : Text.lower language ∈ left.primary.keys := by
        rw [hleft, primary_addAliases]
        exact Entries.mem_keys_set.mpr (Or.inr rfl)
      refine ⟨⟨fun heq => ?_, fun hg => by cases hg⟩, fun g' hg' => ?_⟩
      · rw [heq] at hthere
        exact absurd hthere hnew
      · cases hg'
        refine ⟨rfl, hnew, before, name, rest, hnames, hdenies, ?_,
          fun g' again => register_of_mem hthere g' again⟩
        rw [register, if_neg hset, hbefore]

/-- The languages with the alias `kt` taken. -/
def kotlinOnly : Registry := run {} [.register "kotlin" (some .kotlin) ["kt"] false]

/-- The second alias of Python is refused, so Python stays with the first one. -/
theorem refused_python_stays :
    let left := (kotlinOnly.register "python" (some .python) ["py", "kt"] false).1
    left ≠ kotlinOnly ∧ left.isSupported "py" = true ∧
      left.register "python" (some .python) ["snake"] false = (left, none) := by
  have hrefused : (kotlinOnly.register "python" (some .python) ["py", "kt"] false).2 =
      some (.aliasTaken "kt" "kotlin") := by decide
  obtain ⟨hiff, hleft⟩ := refusal_keeps_iff hrefused
  obtain ⟨-, -, _, _, _, -, -, -, hagain⟩ := hleft .python rfl
  refine ⟨fun heq => ?_, by decide, hagain .python ["snake"]⟩
  cases hiff.mp heq

/-- **A refused registration may leave a registry changed**, and registering the language again
with other aliases does not add them. -/
theorem not_all_refusals_keep :
    ¬ ∀ calls language generator names replace f,
      ((run {} calls).register language generator names replace).2 = some f →
      ((run {} calls).register language generator names replace).1 = run {} calls := by
  intro hall
  have heq := hall [.register "kotlin" (some .kotlin) ["kt"] false] "python" (some .python)
    ["py", "kt"] false (.aliasTaken "kt" "kotlin") (by decide)
  have hkeys := congrArg (fun r => Entries.keys r.primary) heq
  exact absurd hkeys (by decide)

end Registry
end ClassModel
