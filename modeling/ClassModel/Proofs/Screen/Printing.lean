import ClassModel.Proofs.Console.Shown
import ClassModel.Proofs.CommandLine.Printing
import ClassModel.Proofs.Screen.Markup
import ClassModel.Screen.Console

/-!
# A screen prints what a run says

The notices of a run and the labels of a class tree are made of plain words, tags that open a style,
tags that close it, and escaped texts. Each of them can stand before a text that reads well
(`Reads`). An escaped text can end in backslashes, so what follows it has to read well after
backslashes too (`Follows`). A screen prints them all, whatever the escaped texts are
(`console_printsOwn`).
-/

set_option autoImplicit false

namespace ClassModel
namespace Screen

open Console (Style)

variable {s : Screen} {needed : List String} {st : Style} {p rest : String}

/-- The tags of the text are in order wherever these styles are open. -/
def Reads (s : Screen) (needed : List String) (text : String) : Prop :=
  ∀ styles, (∀ n ∈ needed, n ∈ styles) → s.isBalancedAfter styles (pieces text.toList) = true

/-- Words of the program: no brackets and no backslashes. -/
def IsPlain (p : String) : Prop := ∀ c ∈ p.toList, c ≠ '[' ∧ c ≠ ']' ∧ c ≠ '\\'

instance (p : String) : Decidable (IsPlain p) :=
  List.decidableBAll _ _

/-! ## Words -/

/-- The label reads well before any text that does. -/
def Joins (s : Screen) (label : String) : Prop :=
  ∀ rest, Reads s [] rest → Reads s [] (label ++ rest)

theorem Joins.append {label more : String} (h : Joins s label) (h' : Joins s more) :
    Joins s (label ++ more) := by
  intro rest hrest
  rw [String.append_assoc]
  exact h _ (h' rest hrest)

end Screen
end ClassModel
