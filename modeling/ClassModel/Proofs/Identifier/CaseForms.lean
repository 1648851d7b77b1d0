import ClassModel.Proofs.Identifier.EnumName

/-!
# Snake case as the normal form of a name

What snake case gives has a form of its own, and a text in that form is left alone. The words of a
name are those of its snake case, so the camel case and the Pascal case of a name are those of its
snake case, too (`snakeForm_settled`).

A case is empty for one reason only: the name has nothing but hyphens and low lines. Any other
character has a lower case that is no low line, and so starts a word.
-/

set_option autoImplicit false

namespace ClassModel
namespace Identifier

variable {cs : List Char} {name : String}

/-- Nothing is left of a name exactly if it has separators only. -/
theorem snakeChars_eq_nil_iff : snakeChars cs = [] ↔ ∀ c ∈ cs, c = '-' ∨ c = '_' := by
  have hhead := map_head?_snakeChars cs
  rw [← List.head?_eq_none_iff, ← Option.map_eq_none_iff, hhead, Option.map_eq_none_iff,
    List.find?_eq_none]
  refine forall₂_congr fun c _ => ?_
  simp [or_iff_not_imp_left]

theorem toSnake_eq_empty_iff : toSnake name = "" ↔ ∀ c ∈ name.toList, c = '-' ∨ c = '_' := by
  rw [← String.toList_eq_nil_iff, toSnake, String.toList_ofList, snakeChars_eq_nil_iff]

/-- The first word of a name is not empty, unless the name has none. -/
theorem wordsOf_cases (cs : List Char) : snakeChars cs = [] ∧ wordsOf cs = [[]] ∨
    ∃ c part parts, snakeChars cs ≠ [] ∧ wordsOf cs = (c :: part) :: parts := by
  have hbare : (snakeChars cs).head? ≠ some '_' := (Text.bare_strip _ _).1
  rw [wordsOf]
  cases hsnake : snakeChars cs with
  | nil => exact Or.inl ⟨rfl, rfl⟩
  | cons c rest =>
    rw [hsnake, List.head?_cons] at hbare
    have hc : c ≠ '_' := fun h => hbare (congrArg some h)
    obtain ⟨part, parts, hsplit⟩ := Text.exists_splitAt_cons hc rest
    exact Or.inr ⟨c, part, parts, List.cons_ne_nil c rest, hsplit⟩

theorem toCamel_eq_empty_iff : toCamel name = "" ↔ snakeChars name.toList = [] := by
  rw [toCamel]
  rcases wordsOf_cases name.toList with ⟨hnil, hwords⟩ | ⟨c, part, parts, hne, hwords⟩
  · rw [hwords]
    exact iff_of_true rfl hnil
  · rw [hwords]
    refine iff_of_false ?_ hne
    simp [← String.toList_eq_nil_iff]

theorem toPascal_eq_empty_iff : toPascal name = "" ↔ snakeChars name.toList = [] := by
  rw [toPascal]
  rcases wordsOf_cases name.toList with ⟨hnil, hwords⟩ | ⟨c, part, parts, hne, hwords⟩
  · rw [hwords]
    exact iff_of_true rfl hnil
  · rw [hwords]
    refine iff_of_false ?_ hne
    simp [← String.toList_eq_nil_iff, Text.capitalizeChars, Text.titleChar_ne_nil]

/-- The words of a name are those of its snake case. -/
theorem wordsOf_toSnake (name : String) : wordsOf (toSnake name).toList = wordsOf name.toList := by
  rw [wordsOf, snakeChars_toSnake, wordsOf]

/-- **Snake case is a normal form.** However texts are put in lower case, as long as what is in
lower case stays so, has no ASCII capital and no new hyphen, a snake case has no hyphen, no capital,
no two low lines side by side and none at an end, and it is its own snake case. So it is for all
names; a name and its snake case have one camel case and one Pascal case, and each of the three is
empty exactly if the name has nothing but hyphens and low lines. -/
theorem snakeForm_settled :
    (∀ lower, Lowers lower → ∀ cs, SnakeForm (snakeWith lower cs) ∧
      snakeWith lower (snakeWith lower cs) = snakeWith lower cs) ∧
    ∀ name : String,
      SnakeForm (toSnake name).toList ∧
      toSnake (toSnake name) = toSnake name ∧
      toCamel (toSnake name) = toCamel name ∧
      toPascal (toSnake name) = toPascal name ∧
      (toSnake name = "" ↔ ∀ c ∈ name.toList, c = '-' ∨ c = '_') ∧
      (toCamel name = "" ↔ ∀ c ∈ name.toList, c = '-' ∨ c = '_') ∧
      (toPascal name = "" ↔ ∀ c ∈ name.toList, c = '-' ∨ c = '_') := by
  constructor
  · intro lower hl cs
    exact ⟨snakeForm_snakeWith hl cs, snakeWith_snakeWith hl cs⟩
  · intro name
    refine ⟨?_, toSnake_toSnake name, ?_, ?_, toSnake_eq_empty_iff, ?_, ?_⟩
    · rw [toSnake, String.toList_ofList]
      exact snakeForm_snakeWith lowers_lowerChars _
    · rw [toCamel, wordsOf_toSnake, toCamel]
    · rw [toPascal, wordsOf_toSnake, toPascal]
    · rw [toCamel_eq_empty_iff, snakeChars_eq_nil_iff]
    · rw [toPascal_eq_empty_iff, snakeChars_eq_nil_iff]

/-- A name with a hump, hyphens and a low line at its end has a snake case of three words, and cases
that are not empty. -/
theorem userName_settled : Lowers Text.lowerChars ∧
    SnakeForm (snakeWith Text.lowerChars "userName--V2_".toList) ∧
    toSnake "userName--V2_" = "user_name_v2" ∧
    toCamel "user_name_v2" = toCamel "userName--V2_" ∧
    toPascal "user_name_v2" = toPascal "userName--V2_" ∧
    toCamel "userName--V2_" ≠ "" ∧ toPascal "userName--V2_" ≠ "" := by
  have hsnake : toSnake "userName--V2_" = "user_name_v2" := rfl
  have hletter : ¬ ∀ c ∈ "userName--V2_".toList, c = '-' ∨ c = '_' := by simp
  obtain ⟨hgeneral, hname⟩ := snakeForm_settled
  obtain ⟨_, _, hcamel, hpascal, _, hcamelEmpty, hpascalEmpty⟩ := hname "userName--V2_"
  rw [hsnake] at hcamel hpascal
  exact ⟨lowers_lowerChars, (hgeneral _ lowers_lowerChars _).1, hsnake, hcamel, hpascal,
    mt hcamelEmpty.mp hletter, mt hpascalEmpty.mp hletter⟩

end Identifier
end ClassModel
