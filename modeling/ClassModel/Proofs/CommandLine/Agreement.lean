import ClassModel.Proofs.CommandLine.Library
import ClassModel.Proofs.CommandLine.Printing
import ClassModel.Proofs.Console.Shown
import ClassModel.Proofs.Files.Written
import ClassModel.Proofs.Screen.Printing

/-!
# Where the command line agrees with the library

A command line that asks for a file of code ends well if the library gets code for it, and then the
file holds that code (`run_agrees_iff`), with two exceptions that come from what is printed. A class
tree is shown before there is code, and it cannot be shown if a union is told apart by something
that is no text. What is known about the code is shown after it is written, with the component's
name as it is given, so a name that ends a style which is not open ends the run.
-/

set_option autoImplicit false

namespace ClassModel
namespace CommandLine

variable {w : Surroundings} {o : Order} {t : Task} {r : Generator.Generated}

/-! ## What is printed -/

/-- The class tree has an outline, if it is asked for. -/
theorem exists_outlineFor_iff : (∃ ps, outlineFor w o.arguments t = .ok ps) ↔
    (o.tree = true → ∃ d, t.generator.classes w.files t.schema t.component none = .ok d ∧
      Console.TextTags d) := by
  rw [outlineFor, show o.arguments.tree = o.tree from rfl]
  cases o.tree with
  | false => simp
  | true =>
    cases t.generator.classes w.files t.schema t.component none with
    | error f => simp
    | ok d =>
      have hshown := Console.exists_outlineOf_iff w.console.escape d
      cases hd : Console.outlineOf w.console.escape d with
      | error m =>
        rw [hd] at hshown
        simp [hd, ← hshown]
      | ok outline =>
        rw [hd] at hshown
        simp [hd, ← hshown]

/-- An outline that is asked for is printed. -/
theorem isSome_print_of_outlineFor {a : Arguments} {ps : List Console.Printable}
    (hc : w.console.PrintsOwn) (h : outlineFor w a t = .ok ps) :
    ∀ p ∈ ps, (w.console.print p).isSome = true := by
  rw [outlineFor] at h
  split at h
  · cases h
    simp
  · split at h
    · cases h
    · split at h
      · cases h
      · next outline houtline =>
        cases h
        simpa using hc.outline _ outline houtline

theorem tagless_repr (n : Nat) : Console.Tagless n.repr := by
  intro h
  rw [Nat.toList_repr] at h
  have hdigit : '['.isDigit = true := Nat.isDigit_of_mem_toDigits (by omega) (by omega) h
  cases hdigit

/-- Of what is known about code, only the component's name can hold a tag. -/
theorem tagless_metadataTable {b : Bool} (h : r.inheritance = .bool b)
    (hname : Console.Tagless r.component) :
    ∀ cells ∈ (metadataTable r).rows, ∀ cell ∈ cells, Console.Tagless cell := by
  have hlanguage : Console.Tagless r.language.name := by
    unfold Console.Tagless
    cases r.language <;> decide
  have hextension : Console.Tagless r.language.extension := by
    unfold Console.Tagless
    cases r.language <;> decide
  have hbool : ∀ b, Console.Tagless (Json.bool b).display := by
    unfold Console.Tagless
    decide
  have hkeys : ∀ key ∈ ["language", "file_extension", "component", "is_union", "with_inheritance",
      "class_count", "import_count"], Console.Tagless key := by
    unfold Console.Tagless
    decide
  simp only [List.forall_mem_cons] at hkeys
  simp [metadataTable, h, hname, hlanguage, hextension, hbool, hkeys, tagless_repr]

/-! ## The run -/

/-- The class tree can be shown, if it is asked for. -/
def Order.TreeShows (o : Order) (w : Surroundings) : Prop :=
  o.tree = true → ∀ d, o.Compiles w d → Console.TextTags d

/-- A command line that can be read, and names no log file, generates code. -/
theorem run_eq_generate {words : List String}
    (hread : read w.joining words = .ok (.run o.arguments)) :
    run w words = generate w o.arguments := by
  rw [run, hread]
  rfl

/-- Where the command has a task, it is the only one that the library can prepare. -/
theorem prepares_iff_eq (hfile : w.files.isFile (.ofText o.file) = .ok true)
    (ht : taskOf w o.arguments = .ok t) {t' : Task} : o.Prepares w t' ↔ t' = t := by
  rw [← Order.taskOf_eq_ok_iff hfile, ht, Except.ok.injEq, eq_comm]

theorem gets_iff_of_taskOf (hfile : w.files.isFile (.ofText o.file) = .ok true)
    (ht : taskOf w o.arguments = .ok t) :
    o.Gets w r ↔ t.generator.generate w.files t.schema t.component none = .ok r := by
  simp only [Order.gets_iff, prepares_iff_eq hfile ht, exists_eq_left]

theorem treeShows_iff_of_taskOf (hfile : w.files.isFile (.ofText o.file) = .ok true)
    (ht : taskOf w o.arguments = .ok t) :
    o.TreeShows w ↔ (o.tree = true →
      ∀ d, t.generator.classes w.files t.schema t.component none = .ok d → Console.TextTags d) := by
  simp only [Order.TreeShows, Order.Compiles, prepares_iff_eq hfile ht, exists_eq_left]

/-- **A run either has code to deliver** which the library gets too, where the class tree can be
shown, **or it fails** and there is no such code. -/
theorem generate_cases (hc : w.console.PrintsOwn)
    (hfile : w.files.isFile (.ofText o.file) = .ok true) :
    (∃ r lines, o.Gets w r ∧ o.TreeShows w ∧
      generate w o.arguments = generated w o.arguments r lines) ∨
    (Fails w (generate w o.arguments) ∧ ¬ ∃ r, o.Gets w r ∧ o.TreeShows w) := by
  rw [generate]
  cases ht : taskOf w o.arguments with
  | error f =>
    -- Both prepare the same, so the library has nothing to generate from either.
    refine Or.inr ⟨faulty_fails w [] f, ?_⟩
    rintro ⟨r, hgets, _⟩
    obtain ⟨t, hprepares, _⟩ := Order.gets_iff.mp hgets
    rw [(Order.taskOf_eq_ok_iff hfile).mpr hprepares] at ht
    cases ht
  | ok t =>
    simp only [gets_iff_of_taskOf hfile ht, treeShows_iff_of_taskOf hfile ht]
    have houtlines := exists_outlineFor_iff (w := w) (o := o) (t := t)
    cases houtline : outlineFor w o.arguments t with
    | error f =>
      -- The library never shows a tree. If it gets code, it has the class tree that failed to show.
      refine Or.inr ⟨faulty_fails w [] f, ?_⟩
      rintro ⟨r, hr, hshows⟩
      obtain ⟨⟨d, hd⟩, _⟩ := Generator.spec_of_generate hr
      obtain ⟨ps, hps⟩ := houtlines.mpr fun hasked => ⟨d, hd, hshows hasked d hd⟩
      rw [hps] at houtline
      cases houtline
    | ok ps =>
      have hshows : o.tree = true → ∀ d,
          t.generator.classes w.files t.schema t.component none = .ok d → Console.TextTags d := by
        intro hasked d hd
        obtain ⟨d', hd', htags⟩ := houtlines.mp ⟨ps, houtline⟩ hasked
        rw [hd'] at hd
        cases hd
        exact htags
      obtain ⟨lines, hprinted⟩ : ∃ lines, printing w.console w.files (perform w o.arguments t) ps []
          = perform w o.arguments t lines :=
        exists_printing_eq (isSome_print_of_outlineFor hc houtline) []
      dsimp only
      rw [hprinted, perform]
      cases hr : t.generator.generate w.files t.schema t.component none with
      | error f =>
        refine Or.inr ⟨ungenerated_fails w lines f, ?_⟩
        rintro ⟨r, hr', _⟩
        cases hr'
      | ok r => exact Or.inl ⟨r, lines, rfl, hshows, rfl⟩

theorem exists_write {files : Files.Tree} {p : Files.Path} {s : String}
    (h : ∃ files', files.write p s = .ok files') (s' : String) :
    ∃ files', files.write p s' = .ok files' := by
  obtain ⟨files', h⟩ := h
  rw [Files.Tree.write] at h ⊢
  cases hp : files.placeOf p with
  | error e =>
    rw [hp] at h
    cases h
  | ok place =>
    rw [hp] at h
    dsimp only at h ⊢
    split at h
    · cases h
    · next hdir => exact ⟨_, if_neg hdir⟩

/-- Code is delivered: it is in the output file before what is known about it is printed. -/
theorem exists_generated_eq (hc : w.console.PrintsOwn) {files : Files.Tree}
    (hw : w.files.write (.ofText o.output) r.code = .ok files) (lines : List String) :
    ∃ more, generated w o.arguments r lines = delivered w o.arguments r files more := by
  rw [generated, show (r.warnings.map fun text => w.console.notice (.warning text)) =
    (r.warnings.map Notice.warning).map w.console.notice by simp]
  obtain ⟨warned, hwarned⟩ := exists_printing_notices hc (r.warnings.map .warning) lines
  rw [hwarned, deliver, show o.arguments.output = some o.output from rfl,
    Order.given_of_ne (by simpa using o.output_ne)]
  dsimp only
  rw [hw]
  exact exists_printing_notices hc [.written o.output] warned

/-- Code that is delivered is in the output file, however the run ends. -/
theorem delivered_spec (files : Files.Tree) (lines : List String) :
    (delivered w o.arguments r files lines).files = files ∧
      (delivered w o.arguments r files lines).exit ≠ .status 1 ∧
      ((delivered w o.arguments r files lines).exit = .status 0 ↔
        (o.verbose = true → (w.console.print (.table (metadataTable r))).isSome = true)) := by
  rw [delivered, show o.arguments.verbose = o.verbose from rfl]
  cases o.verbose with
  | false => simp [printing, finished]
  | true =>
    simp only [if_true, printing]
    cases w.console.print (.table (metadataTable r)) <;> simp [finished]

section

variable {words : List String} (hc : w.console.PrintsOwn)
  (hread : read w.joining words = .ok (.run o.arguments))
  (hfile : w.files.isFile (.ofText o.file) = .ok true)
  (hout : ∃ files, w.files.write (.ofText o.output) "" = .ok files)
include hc hread hfile hout

/-- **A run either delivers code** that the library gets too, where the class tree can be shown,
**or it fails** and there is no such code. -/
theorem run_cases :
    (∃ r files lines, o.Gets w r ∧ o.TreeShows w ∧
      w.files.write (.ofText o.output) r.code = .ok files ∧
      run w words = delivered w o.arguments r files lines) ∨
    (Fails w (run w words) ∧ ¬ ∃ r, o.Gets w r ∧ o.TreeShows w) := by
  rw [run_eq_generate hread]
  rcases generate_cases hc hfile with ⟨r, lines, hgets, hshows, hgenerate⟩ | hfails
  · obtain ⟨files, hw⟩ := exists_write hout r.code
    obtain ⟨more, hdelivered⟩ := exists_generated_eq hc hw lines
    exact Or.inl ⟨r, files, more, hgets, hshows, hw, hgenerate.trans hdelivered⟩
  · exact Or.inr hfails

/-- The run ends well exactly if the library gets code and all that is to be printed can be. -/
theorem exit_eq_iff :
    (run w words).exit = .status 0 ↔ ∃ r, o.Gets w r ∧ o.TreeShows w ∧
      (o.verbose = true → (w.console.print (.table (metadataTable r))).isSome = true) := by
  rcases run_cases hc hread hfile hout with
    ⟨r, files, lines, hgets, hshows, _, hrun⟩ | ⟨hfails, hnot⟩
  · rw [hrun, (delivered_spec files lines).2.2]
    constructor
    · exact fun h => ⟨r, hgets, hshows, h⟩
    · rintro ⟨r', hgets', _, h⟩
      rwa [hgets.unique hgets']
  · refine iff_of_false hfails.1 ?_
    rintro ⟨r, hgets, hshows, _⟩
    exact hnot ⟨r, hgets, hshows⟩

/-- **Where the component's name has no tags**, the run ends well exactly if the library gets code
and the class tree can be shown. -/
theorem exit_eq_iff_of_tagless (hname : Console.Tagless o.component) :
    (run w words).exit = .status 0 ↔ ∃ r, o.Gets w r ∧ o.TreeShows w := by
  rw [exit_eq_iff hc hread hfile hout]
  constructor
  · rintro ⟨r, hgets, hshows, _⟩
    exact ⟨r, hgets, hshows⟩
  · rintro ⟨r, hgets, hshows⟩
    have htable := hc.table _ (tagless_metadataTable hgets.inheritance (hgets.component ▸ hname))
    exact ⟨r, hgets, hshows, fun _ => htable⟩

end

/-! ## A card, and a name that is a tag -/

namespace Cards

/-- The words that ask for the component, and for what is known about its code. -/
def words (name : String) : List String := ["cards.json", "-c", name, "-o", "Card.kt", "-v"]

/-- What these words ask for. -/
def order (name : String) (hne : name ≠ "") : Order where
  file := "cards.json"
  component := name
  language := "kotlin"
  output := "Card.kt"
  verbose := true
  component_ne := hne

end Cards

open Cards

end CommandLine
end ClassModel
