import Mathlib.Data.List.Infix

/-!
# Texts in a text

A text that is put together from parts holds what its parts hold. Where a separator stands between
the parts and something else after the last one, a part is held with what stands after it.
-/

set_option autoImplicit false

namespace ClassModel
namespace Text

variable {line s t sep : String} {parts : List String}

/-- The text `t` holds the text `s`. -/
def Holds (t s : String) : Prop := s.toList <:+: t.toList

theorem holds_refl (s : String) : Holds s s := List.infix_refl _

theorem holds_append_left (h : Holds s line) : Holds (s ++ t) line := by
  rw [Holds, String.toList_append]
  exact List.infix_append_of_infix_left h

theorem holds_append_right (h : Holds t line) : Holds (s ++ t) line := by
  rw [Holds, String.toList_append]
  exact List.infix_append_of_infix_right h

theorem holds_join (hs : s ∈ parts) (h : Holds s line) : Holds (String.join parts) line := by
  rw [Holds, String.toList_join, List.flatMap_def]
  exact h.trans (List.infix_of_mem_flatten (List.mem_map_of_mem hs))

theorem holds_intercalate (hs : s ∈ parts) (h : Holds s line) :
    Holds (sep.intercalate parts) line := by
  rw [Holds, String.toList_intercalate]
  refine h.trans ?_
  induction parts with
  | nil => exact absurd hs (by simp)
  | cons part rest ih =>
    cases rest with
    | nil =>
      rw [List.mem_singleton] at hs
      subst hs
      simp
    | cons next rest =>
      rw [List.map_cons, List.map_cons, List.intercalate_cons_cons]
      rcases List.mem_cons.mp hs with rfl | hs
      · exact List.infix_append_of_infix_left List.infix_append_left
      · exact List.infix_append_of_infix_right (ih hs)

/-- After a part stands the separator, or what stands after the last one. -/
theorem holds_intercalate_append (sep t : String) (hs : s ∈ parts) :
    Holds (sep.intercalate parts ++ t) (s ++ sep) ∨
      Holds (sep.intercalate parts ++ t) (s ++ t) := by
  induction parts with
  | nil => exact absurd hs (by simp)
  | cons part rest ih =>
    cases rest with
    | nil =>
      rw [List.mem_singleton] at hs
      subst hs
      rw [String.intercalate_singleton]
      exact Or.inr (holds_refl _)
    | cons next rest =>
      rw [String.intercalate_cons_cons]
      rcases List.mem_cons.mp hs with rfl | hs
      · exact Or.inl (holds_append_left (holds_append_left (holds_refl _)))
      · rw [String.append_assoc]
        exact (ih hs).imp holds_append_right holds_append_right

end Text
end ClassModel
