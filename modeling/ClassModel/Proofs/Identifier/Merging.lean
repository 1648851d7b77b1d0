import ClassModel.Proofs.Identifier.Stem
import ClassModel.Target.KotlinWriter

/-!
# Which names give one identifier

A digit at the start of a stem is guarded by a low line and a reserved word is set apart, and both
can be told from the stem: no stem starts or ends with a low line, or holds a backtick. So nothing
after the stem makes two names one. Two names give one identifier exactly if cleaning, and the case
that is asked for, leave the same of them (`kotlin_sanitize_eq_iff`, `python_sanitize_eq_iff`,
`python_screaming_eq_iff`).
-/

set_option autoImplicit false

namespace ClassModel
namespace Identifier

variable {name x y w : String} {case : NameCase}

/-- The cases in which a low line stands between words, or whatever stands there already. -/
def NameCase.isLined : NameCase → Bool
  | .snake | .screamingSnake | .asGiven => true
  | .camel | .pascal => false

/-- What is left of a name that is cleaned and put in a case. -/
def stemOf (name : String) (case : NameCase) : String := convert (clean name) case

theorem stem_stemOf (h : case.isLined = true) (name : String) :
    Stem (stemOf name case).toList := by
  have hclean := stem_clean name
  cases case with
  | snake =>
    rw [stemOf, convert, toSnake, String.toList_ofList]
    exact hclean.snake.1
  | screamingSnake =>
    rw [stemOf, convert, Text.upper, toSnake, String.toList_ofList, String.toList_ofList]
    exact hclean.snake.1.upper hclean.snake.2
  | asGiven => exact hclean
  | camel => cases h
  | pascal => cases h

/-! ## Guarding a digit -/

theorem word_eq_guardDigit (h : case.isLined = true) (name : String) :
    word name case = guardDigit (stemOf name case) := by
  have hne : convert (clean name) case ≠ "" := by
    intro hempty
    have hstem := (stem_stemOf h name).nonempty
    rw [stemOf, hempty] at hstem
    exact hstem rfl
  rw [word, if_neg hne]
  rfl

theorem toList_guardDigit (s : String) : (guardDigit s).toList = s.toList ∨
    ∃ c rest, s.toList = c :: rest ∧ isDigit c = true ∧
      (guardDigit s).toList = '_' :: c :: rest := by
  rw [guardDigit]
  cases hs : s.toList with
  | nil => exact Or.inl hs
  | cons c rest =>
    by_cases hc : isDigit c = true
    · refine Or.inr ⟨c, rest, rfl, hc, ?_⟩
      simp only [hc, if_true]
      rw [String.toList_append, hs]
      rfl
    · left
      simp [hc, hs]

/-- A guard can be told from a stem, which starts with no low line. -/
theorem dropLeading_guardDigit (h : Stem x.toList) :
    Text.dropLeading '_' (guardDigit x).toList = x.toList := by
  have hstay : Text.dropLeading '_' x.toList = x.toList := by
    have hhead := h.bare.1
    cases hx : x.toList with
    | nil => rfl
    | cons c rest =>
      rw [hx] at hhead
      exact List.dropWhile_cons_of_neg (by simpa using hhead)
  rcases toList_guardDigit x with hsame | ⟨c, rest, hx, _, hguard⟩
  · rw [hsame, hstay]
  · rw [hguard, ← hx]
    exact hstay

theorem guardDigit_inj (hx : Stem x.toList) (hy : Stem y.toList)
    (h : guardDigit x = guardDigit y) : x = y := by
  rw [← String.toList_inj, ← dropLeading_guardDigit hx, h, dropLeading_guardDigit hy]

/-- **One identifier before reserved words, one stem.** -/
theorem word_eq_iff (h : case.isLined = true) (x y : String) :
    word x case = word y case ↔ stemOf x case = stemOf y case := by
  rw [word_eq_guardDigit h, word_eq_guardDigit h]
  constructor
  · intro hword
    exact guardDigit_inj (stem_stemOf h x) (stem_stemOf h y) hword
  · intro hstem
    rw [hstem]

theorem wordChar_of_mem_word (h : case.isLined = true) {c : Char}
    (hc : c ∈ (word name case).toList) : isWordChar c = true := by
  have hstem := stem_stemOf h name
  rw [word_eq_guardDigit h] at hc
  rcases toList_guardDigit (stemOf name case) with hsame | ⟨d, rest, hs, _, hguard⟩
  · rw [hsame] at hc
    exact hstem.word c hc
  · rw [hguard, ← hs] at hc
    rcases List.mem_cons.mp hc with rfl | hc
    · decide
    · exact hstem.word c hc

theorem getLast?_word (h : case.isLined = true) (name : String) :
    (word name case).toList.getLast? ≠ some '_' := by
  have hlast := (stem_stemOf h name).bare.2
  rw [word_eq_guardDigit h]
  rcases toList_guardDigit (stemOf name case) with hsame | ⟨d, rest, hs, _, hguard⟩
  · rw [hsame]
    exact hlast
  · rw [hs] at hlast
    rw [hguard, List.getLast?_cons_cons]
    exact hlast

/-- A low line at the start of an identifier guards a digit. -/
theorem digit_of_low_start (h : case.isLined = true) {c : Char} {rest : List Char}
    (hw : (word name case).toList = '_' :: c :: rest) : isDigit c = true := by
  have hhead := (stem_stemOf h name).bare.1
  rw [word_eq_guardDigit h] at hw
  rcases toList_guardDigit (stemOf name case) with hsame | ⟨d, more, _, hd, hguard⟩
  · rw [← hsame, hw] at hhead
    exact absurd rfl hhead
  · rw [hguard] at hw
    cases hw
    exact hd

/-! ## Setting reserved words apart -/

/-- What sets a reserved word apart does so: nothing around a word is a word again. -/
def Sanitizer.Separates (s : Sanitizer) (case : NameCase) : Prop :=
  ∀ x y, s.before ++ word x case ++ s.after ≠ word y case

theorem kotlin_separates (h : case.isLined = true) : Sanitizer.kotlin.Separates case := by
  intro x y heq
  have htick : '`' ∈ (word y case).toList := by
    rw [← heq]
    simp [Sanitizer.kotlin]
  exact absurd (wordChar_of_mem_word h htick) (by decide)

theorem python_separates (h : case.isLined = true) : Sanitizer.python.Separates case := by
  intro x y heq
  have hlast := getLast?_word h y
  rw [← heq] at hlast
  simp [Sanitizer.python] at hlast

/-- Two names have one identifier exactly if they have one before reserved words. -/
theorem sanitize_eq_iff_word {s : Sanitizer} (hs : s.Separates case) (x y : String) :
    s.sanitize x case = s.sanitize y case ↔ word x case = word y case := by
  constructor
  · intro h
    rw [Sanitizer.sanitize, Sanitizer.sanitize] at h
    by_cases hx : s.reserved.contains (word x case) = true <;>
      by_cases hy : s.reserved.contains (word y case) = true
    · rw [if_pos hx, if_pos hy] at h
      have hlist := congrArg String.toList h
      simpa [String.toList_inj] using hlist
    · rw [if_pos hx, if_neg hy] at h
      exact absurd h (hs x y)
    · rw [if_neg hx, if_pos hy] at h
      exact absurd h.symm (hs y x)
    · rw [if_neg hx, if_neg hy] at h
      exact h
  · intro h
    rw [Sanitizer.sanitize, Sanitizer.sanitize, h]

/-- The snake case of a name that is cleaned. -/
def snakeOf (name : String) : String := toSnake (clean name)

/-- **In Kotlin**, names are one property exactly if cleaning makes them one. -/
theorem kotlin_sanitize_eq_iff (x y : String) :
    Sanitizer.kotlin.sanitize x .asGiven = Sanitizer.kotlin.sanitize y .asGiven ↔
      clean x = clean y :=
  (sanitize_eq_iff_word (kotlin_separates rfl) x y).trans (word_eq_iff rfl x y)

/-- **In Python**, names are one attribute exactly if they have one snake case. -/
theorem python_sanitize_eq_iff (x y : String) :
    Sanitizer.python.sanitize x .snake = Sanitizer.python.sanitize y .snake ↔
      snakeOf x = snakeOf y :=
  (sanitize_eq_iff_word (python_separates rfl) x y).trans (word_eq_iff rfl x y)

/-- **Members of a Python enumeration** are told apart by their snake case too: upper case keeps
it. -/
theorem python_screaming_eq_iff (x y : String) :
    Sanitizer.python.sanitize x .screamingSnake = Sanitizer.python.sanitize y .screamingSnake ↔
      snakeOf x = snakeOf y := by
  rw [sanitize_eq_iff_word (python_separates rfl), word_eq_iff rfl]
  constructor
  · intro h
    have hchars : ∀ n, ∀ c ∈ (snakeOf n).toList, isSnakeChar c = true := by
      intro n c hc
      rw [snakeOf, toSnake, String.toList_ofList] at hc
      exact (stem_clean n).snake.2 c hc
    have hupper : Text.upperChars (snakeOf x).toList = Text.upperChars (snakeOf y).toList := by
      have hlist := congrArg String.toList h
      simpa [stemOf, convert, Text.upper, snakeOf] using hlist
    exact String.toList_inj.mp (upperChars_inj (hchars x) (hchars y) hupper)
  · intro h
    have hsame : toSnake (clean x) = toSnake (clean y) := h
    rw [stemOf, stemOf, convert, convert, hsame]

/-- The name of the constant with a union's discriminator is no name of a field. -/
theorem sanitize_ne_discriminator (name : String) :
    Sanitizer.python.sanitize name .snake ≠ "__discriminator__" := by
  intro h
  have hsecond : ∃ rest, (word name .snake).toList = '_' :: '_' :: rest := by
    rw [Sanitizer.sanitize] at h
    have hlist := congrArg String.toList h
    split at hlist
    · have hlist' : (word name .snake).toList ++ ['_'] = "__discriminator_".toList ++ ['_'] := by
        simpa [Sanitizer.python] using hlist
      exact ⟨_, List.append_cancel_right hlist'⟩
    · exact ⟨_, hlist⟩
  obtain ⟨rest, hw⟩ := hsecond
  exact absurd (digit_of_low_start rfl hw) (by decide)

end Identifier

/-! ## Entries of a Kotlin enumeration -/

namespace KotlinFile

theorem head?_of_isIdentifier {s : String} (h : Text.isIdentifier s = true) :
    s.toList.head? ≠ some '`' := by
  rw [Text.isIdentifier] at h
  cases hs : s.toList with
  | nil => simp
  | cons c rest =>
    rw [hs] at h
    intro htick
    cases htick
    exact absurd (Bool.and_eq_true_iff.mp h).1 (by decide)

/-- **Entries are kept apart**: what stands between backticks is no identifier. -/
theorem entryOf_injective : Function.Injective entryOf := by
  have hplain : ∀ x y, Text.isIdentifier x = true → x ≠ "`" ++ y ++ "`" := by
    intro x y hx heq
    have hhead := head?_of_isIdentifier hx
    rw [heq] at hhead
    simp at hhead
  intro x y h
  rw [entryOf, entryOf] at h
  split at h
  · next hx =>
    split at h
    · exact h
    · exact absurd h (hplain x y (Bool.and_eq_true_iff.mp hx).1)
  · split at h
    · next hy => exact absurd h.symm (hplain y x (Bool.and_eq_true_iff.mp hy).1)
    · have hlist := congrArg String.toList h
      simpa [String.toList_inj] using hlist

end KotlinFile
end ClassModel
