import ClassModel.CommandLine.Run

/-!
# What a run prints

How a console prints is not known here. It is relied on to print the run's own notices and class
trees, in which every text of unknown origin is made safe, and what has no tags at all
(`PrintsOwn`). Any console either prints, and the run goes on, or the run ends without a report and
the files stay as they are (`printing_cases`).
-/

set_option autoImplicit false

namespace ClassModel

namespace Console

/-- A text without tags: no bracket opens one. -/
def Tagless (text : String) : Prop := '[' ∉ text.toList

/-- **What a console is relied on for**: it prints the notices of a run and the outlines of class
trees, whose tags are the program's own, and tables without tags. -/
structure PrintsOwn (c : Console) : Prop where
  notice : ∀ n : CommandLine.Notice, (c.print (c.notice n)).isSome = true
  outline : ∀ d o, outlineOf c.escape d = .ok o → (c.print (.tree o)).isSome = true
  table : ∀ t : Table, (∀ cells ∈ t.rows, ∀ cell ∈ cells, Tagless cell) →
    (c.print (.table t)).isSome = true

end Console

namespace CommandLine

variable {c : Console} {w : Surroundings} {files : Files.Tree} {next : List String → Outcome}
  {ps : List Console.Printable} {lines : List String}

/-- **Printing goes on or ends the run** without a report, with the files as they are. -/
theorem printing_cases (c : Console) (files : Files.Tree) (next : List String → Outcome)
    (ps : List Console.Printable) (lines : List String) :
    (∃ more, printing c files next ps lines = next more) ∨
      ∃ more, printing c files next ps lines =
        { exit := .escape .unprintable, lines := more, files := files } := by
  induction ps generalizing lines with
  | nil => exact Or.inl ⟨lines, rfl⟩
  | cons p rest ih =>
    rw [printing]
    cases c.print p with
    | none => exact Or.inr ⟨lines, rfl⟩
    | some more => exact ih (lines ++ more)

/-- Printing goes on after what the console prints. -/
theorem exists_printing_eq (h : ∀ p ∈ ps, (c.print p).isSome = true) (lines : List String) :
    ∃ more, printing c files next ps lines = next more := by
  induction ps generalizing lines with
  | nil => exact ⟨lines, rfl⟩
  | cons p rest ih =>
    obtain ⟨hp, hrest⟩ := List.forall_mem_cons.mp h
    obtain ⟨more, hmore⟩ := Option.isSome_iff_exists.mp hp
    obtain ⟨all, hall⟩ := ih hrest (lines ++ more)
    refine ⟨all, ?_⟩
    rw [printing, hmore]
    exact hall

/-- Notices are printed by a console that is relied on. -/
theorem exists_printing_notices (hc : c.PrintsOwn) (ns : List Notice) (lines : List String) :
    ∃ more, printing c files next (ns.map c.notice) lines = next more := by
  refine exists_printing_eq (fun p hp => ?_) lines
  obtain ⟨n, _, rfl⟩ := List.mem_map.mp hp
  exact hc.notice n

/-! ## Runs that do not end well -/

/-- The run does not end well, and the files are as they were. -/
def Fails (w : Surroundings) (out : Outcome) : Prop := out.exit ≠ .status 0 ∧ out.files = w.files

theorem printing_fails (hnext : ∀ more, Fails w (next more)) :
    Fails w (printing w.console w.files next ps lines) := by
  obtain ⟨more, h⟩ | ⟨more, h⟩ := printing_cases w.console w.files next ps lines
  · rw [h]
    exact hnext more
  · rw [h]
    exact ⟨by simp, rfl⟩

theorem failed_fails (w : Surroundings) (lines : List String) (n : Notice) :
    Fails w (failed w lines n) :=
  printing_fails fun _ => ⟨by simp, rfl⟩

theorem faulty_fails (w : Surroundings) (lines : List String) (f : Fault) :
    Fails w (faulty w lines f) := by
  rw [faulty]
  cases f.report with
  | ok report => exact failed_fails w lines _
  | error e => exact ⟨by simp, rfl⟩

theorem ungenerated_fails (w : Surroundings) (lines : List String) (f : Generator.Fault) :
    Fails w (ungenerated w lines f) := by
  rw [ungenerated]
  cases f.report? with
  | none => exact faulty_fails w lines _
  | some report => exact failed_fails w lines _

end CommandLine
end ClassModel
