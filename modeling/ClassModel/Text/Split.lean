import ClassModel.Text.Blank

/-!
# `Text.Split` — cutting a text into parts

Lines, parts between separators, and the two sides of the last separator. All of them work on
lists of characters, where an induction follows the text; the forms on `String` are one step
away from them.
-/

set_option autoImplicit false

namespace ClassModel
namespace Text

/-- The parts between the occurrences of a character. There is always at least one part. -/
def splitAt (sep : Char) : List Char → List (List Char)
  | [] => [[]]
  | c :: rest =>
    if c = sep then [] :: splitAt sep rest
    else match splitAt sep rest with
      | [] => [[c]]
      | part :: parts => (c :: part) :: parts

theorem splitAt_ne_nil (sep : Char) (cs : List Char) : splitAt sep cs ≠ [] := by
  cases cs with
  | nil => simp [splitAt]
  | cons c rest =>
    simp only [splitAt]
    split
    · simp
    · split <;> simp

/-- The parts put together again, the separator between them. -/
def joinAt (sep : Char) : List (List Char) → List Char
  | [] => []
  | [part] => part
  | part :: parts => part ++ sep :: joinAt sep parts

/-- Nothing is lost in a split. -/
theorem joinAt_splitAt (sep : Char) (cs : List Char) : joinAt sep (splitAt sep cs) = cs := by
  induction cs with
  | nil => rfl
  | cons c rest ih =>
    simp only [splitAt]
    split
    · rename_i h
      cases hs : splitAt sep rest with
      | nil => exact absurd hs (splitAt_ne_nil sep rest)
      | cons p ps => rw [← ih, hs, h]; rfl
    · cases hs : splitAt sep rest with
      | nil => exact absurd hs (splitAt_ne_nil sep rest)
      | cons p ps => cases ps <;> simp_all [joinAt]

/-- No part holds the separator. -/
theorem not_mem_of_mem_splitAt {sep : Char} {cs part : List Char}
    (h : part ∈ splitAt sep cs) : sep ∉ part := by
  induction cs generalizing part with
  | nil => simp [splitAt] at h; simp [h]
  | cons c rest ih =>
    simp only [splitAt] at h
    split at h
    · rcases List.mem_cons.mp h with rfl | h
      · simp
      · exact ih h
    · rename_i hc
      cases hs : splitAt sep rest with
      | nil => exact absurd hs (splitAt_ne_nil sep rest)
      | cons p ps =>
        rw [hs] at h
        rcases List.mem_cons.mp h with rfl | h
        · have hp : sep ∉ p := ih (by simp [hs])
          simp [hp, Ne.symm hc]
        · exact ih (by simp [hs, h])

/-- The text before and after the last occurrence of a separator, if there is one. -/
def splitLast? (sep : List Char) : List Char → Option (List Char × List Char)
  | [] => none
  | c :: rest =>
    match splitLast? sep rest with
    | some (before, after) => some (c :: before, after)
    | none => if sep.isPrefixOf (c :: rest) then some ([], (c :: rest).drop sep.length) else none

/-- A text without the separator is not split. -/
theorem splitLast?_eq_none_iff {x : Char} {cs : List Char} :
    splitLast? [x] cs = none ↔ x ∉ cs := by
  induction cs with
  | nil => simp [splitLast?]
  | cons c rest ih =>
    cases h : splitLast? [x] rest with
    | none =>
      have hrest : x ∉ rest := ih.mp h
      simp [splitLast?, h, hrest]
    | some parts =>
      have hrest : x ∈ rest := by
        rw [h] at ih
        simpa using ih
      simp [splitLast?, h, hrest]

/-- A text is split where the separator is followed by no other one. -/
theorem splitLast?_eq_some_iff {x : Char} {cs before after : List Char} :
    splitLast? [x] cs = some (before, after) ↔ cs = before ++ x :: after ∧ x ∉ after := by
  constructor
  · intro h
    induction cs generalizing before with
    | nil => cases h
    | cons c rest ih =>
      rw [splitLast?] at h
      split at h
      · next before' after' hrest =>
        cases h
        obtain ⟨rfl, hafter⟩ := ih hrest
        exact ⟨rfl, hafter⟩
      · next hrest =>
        split at h
        · next hc =>
          cases h
          have hc : x = c := by simpa using hc
          rw [hc] at hrest ⊢
          exact ⟨rfl, splitLast?_eq_none_iff.mp hrest⟩
        · cases h
  · intro h
    obtain ⟨rfl, hafter⟩ := h
    induction before with
    | nil => simp [splitLast?, splitLast?_eq_none_iff.mpr hafter]
    | cons c before ih => simp [splitLast?, ih]

/-- The text after the last separator; the whole text if there is none. -/
def afterLast (sep cs : List Char) : List Char :=
  match splitLast? sep cs with
  | some (_, after) => after
  | none => cs

/-- The text without leading occurrences of a character. -/
def dropLeading (x : Char) (cs : List Char) : List Char := cs.dropWhile (· = x)

/-- The text without a character at both of its ends. -/
def strip (x : Char) (cs : List Char) : List Char :=
  (dropLeading x (dropLeading x cs).reverse).reverse

/-- Line ends of all three kinds become a line feed. -/
def unifyNewlines : List Char → List Char
  | [] => []
  | '\r' :: '\n' :: rest => '\n' :: unifyNewlines rest
  | '\r' :: rest => '\n' :: unifyNewlines rest
  | c :: rest => c :: unifyNewlines rest

/-- The lines of a text, without their line feeds. -/
def lines (s : String) : List String := (splitAt '\n' s.toList).map .ofList

/-- The lines of a text put together, a line feed between them. -/
def unlines (ls : List String) : String := "\n".intercalate ls

/-- Does the text hold a character? -/
def holds (s : String) (c : Char) : Bool := s.toList.contains c

end Text
end ClassModel
