import ClassModel.Proofs.Text.Rows
import ClassModel.Settings.Load

/-!
# Settings without a warning

A check of settings looks at three values, each by itself, and says something about those that
cannot be meant. Here is what it lets pass (`warnings_eq_nil_iff`): an indent that is not below one,
a file of provided types that is there, and a package name whose parts, between its dots, are
identifiers. In one language parts of the name may be empty; in the other the whole name may be.

The settings that a language starts from pass, and so do those of nobody (`warnings_defaults`).
-/

set_option autoImplicit false

namespace ClassModel
namespace Settings

variable {s : Settings} {files : Files.Tree} {j : Json} {parts : List String}

/-- The indent is a number, and not below one. -/
def HasIndent (s : Settings) : Prop :=
  s.indentSize.isNumber = true ∧ Json.compareNumbers s.indentSize (.int 1) ≠ some .lt

/-- If a file of provided types is named, something is there. -/
def FindsProvided (files : Files.Tree) (s : Settings) : Prop :=
  s.providedTypesFile.isSet = true →
    ∃ path, s.providedTypesFile = .str path ∧ files.has (.ofText path) = .ok true

/-- The value is a text of these parts, dots between them. -/
def Dotted (j : Json) (parts : List String) : Prop :=
  parts ≠ [] ∧ (∀ p ∈ parts, '.' ∉ p.toList) ∧ j = .str (".".intercalate parts)

/-- The package has a name that the language can write. -/
def NamesPackage (s : Settings) : Option Language → Prop
  | none => True
  | some .kotlin =>
    ∃ parts, Dotted s.packageName parts ∧ ∀ p ∈ parts, p ≠ "" → Text.isIdentifier p = true
  | some .python => s.packageName.isSet = true →
    ∃ parts, Dotted s.packageName parts ∧ ∀ p ∈ parts, Text.isIdentifier p = true

/-! ## The three checks -/

theorem indentWarnings_eq_nil_iff : s.indentWarnings = .ok [] ↔ s.HasIndent := by
  rw [indentWarnings, isBelowOne, HasIndent]
  by_cases hnumber : s.indentSize.isNumber = true
  · by_cases hbelow : Json.compareNumbers s.indentSize (.int 1) = some .lt
    · simp [hnumber, hbelow, Except.map]
    · simp [hnumber, hbelow, Except.map]
  · simp [hnumber, Except.map]

theorem providedWarnings_eq_nil_iff :
    s.providedWarnings files = .ok [] ↔ s.FindsProvided files := by
  rw [providedWarnings, FindsProvided]
  by_cases hset : s.providedTypesFile.isSet = true
  · rw [hset]
    generalize s.providedTypesFile.display = shown
    cases s.providedTypesFile with
    | str path =>
      cases hhas : files.has (.ofText path) with
      | error m => simp [Files.Path.ofJson, hhas, bind, Except.bind, Except.map]
      | ok there => simp [Files.Path.ofJson, hhas, bind, Except.bind, Except.map]
    | _ => simp [Files.Path.ofJson, bind, Except.bind, Except.map]
  · simp [hset]

theorem packageParts_eq_ok_iff : packageParts j = .ok parts ↔ Dotted j parts := by
  constructor
  · intro h
    cases j with
    | str name =>
      cases h
      refine ⟨by simp [Text.splitAt_ne_nil], ?_, ?_⟩
      · rw [List.forall_mem_map]
        intro p hp
        rw [String.toList_ofList]
        exact Text.not_mem_of_mem_splitAt hp
      · rw [Json.str.injEq, ← String.toList_inj, String.toList_intercalate, List.map_map]
        simp only [Function.comp_def, String.toList_ofList, List.map_id']
        exact ((Text.intercalate_eq_joinAt '.' _).trans (Text.joinAt_splitAt '.' _)).symm
    | _ => cases h
  · rintro ⟨hne, hdots, rfl⟩
    have hjoined : (".".intercalate parts).toList = Text.joinAt '.' (parts.map (·.toList)) := by
      rw [String.toList_intercalate]
      exact Text.intercalate_eq_joinAt '.' _
    rw [packageParts, hjoined, Text.splitAt_joinAt (by simpa using hne) (by simpa using hdots)]
    simp

theorem packageWarnings_eq_nil_iff {l : Option Language} :
    s.packageWarnings l = .ok [] ↔ s.NamesPackage l := by
  cases l with
  | none => simp [packageWarnings, NamesPackage]
  | some l =>
    cases l with
    | kotlin =>
      simp only [packageWarnings, NamesPackage, ← packageParts_eq_ok_iff]
      cases packageParts s.packageName with
      | error m => simp [Except.map]
      | ok parts => simp [Except.map, List.all_eq_true]
    | python =>
      simp only [packageWarnings, NamesPackage, ← packageParts_eq_ok_iff]
      by_cases hset : s.packageName.isSet = true
      · cases packageParts s.packageName with
        | error m => simp [hset, Except.map]
        | ok parts => simp [hset, Except.map, List.all_eq_true]
      · simp [hset]

/-- **What a check of settings lets pass.** -/
theorem warnings_eq_nil_iff {l : Option Language} : s.warnings files l = .ok [] ↔
    s.HasIndent ∧ s.FindsProvided files ∧ s.NamesPackage l := by
  rw [← indentWarnings_eq_nil_iff, ← providedWarnings_eq_nil_iff, ← packageWarnings_eq_nil_iff,
    warnings]
  cases s.indentWarnings with
  | error m => simp [bind, Except.bind]
  | ok indent =>
    cases s.providedWarnings files with
    | error m => simp [bind, Except.bind]
    | ok provided =>
      cases s.packageWarnings l with
      | error m => simp [bind, Except.bind]
      | ok package => simp [bind, Except.bind]

/-- **The settings that a language starts from pass.** -/
theorem warnings_defaults (files : Files.Tree) (l : Language) :
    (ofLayer (.defaults l)).warnings files (some l) = .ok [] ∧
      ({} : Settings).warnings files (some l) = .ok [] := by
  cases l
  · exact ⟨rfl, rfl⟩
  · exact ⟨rfl, rfl⟩

end Settings
end ClassModel
