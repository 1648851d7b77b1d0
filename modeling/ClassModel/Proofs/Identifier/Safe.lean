import ClassModel.Proofs.Identifier.Memo
import ClassModel.Proofs.Identifier.Merging
import ClassModel.Proofs.Identifier.SnakeCase

/-!
# Sanitized names are safe

What a sanitizer makes of a name is a word: an ASCII letter or a low line, followed by letters,
digits and low lines. Each case keeps to the characters of the cleaned name, so the digit's guard
is all that is left to do at the start (`isWord_word`). What sets a reserved word apart makes
another one of it only if some reserved word ends with a low line, and none does.

What is put around a word, and the guard before a digit, are cleaned away again, and what is left
is the stem that the word was made of (`clean_sanitize`). So a name that is sanitized twice in a
case that keeps its own result comes out as it went in.
-/

set_option autoImplicit false

namespace ClassModel
namespace Identifier

variable {s : Sanitizer} {name w : String} {case : NameCase} {c : Char} {cs : List Char}

/-! ## Words -/

/-- May a word start with the character? Only an ASCII letter or a low line does. -/
def isWordStart (c : Char) : Bool := ('a' ≤ c && c ≤ 'z') || isCapital c || c == '_'

/-- Is the text a letter or a low line, followed by letters, digits and low lines? -/
def isWord (s : String) : Bool :=
  match s.toList with
  | [] => false
  | c :: rest => isWordStart c && rest.all isWordChar

theorem isWordStart_of_not_digit (h : isWordChar c = true) (hdigit : isDigit c = false) :
    isWordStart c = true :=
  forall_wordChar (P := fun c => isDigit c = false → isWordStart c = true) (by decide) h hdigit

theorem isWord_append {v : String} (hw : isWord w = true)
    (hv : ∀ c ∈ v.toList, isWordChar c = true) : isWord (w ++ v) = true := by
  rw [isWord, String.toList_append]
  rw [isWord] at hw
  cases hlist : w.toList with
  | nil => simp [hlist] at hw
  | cons c rest =>
    rw [hlist, Bool.and_eq_true] at hw
    simp only [List.cons_append, List.all_append, Bool.and_eq_true]
    exact ⟨hw.1, hw.2, List.all_eq_true.mpr hv⟩

/-- The guard is all that keeps word characters from being a word. -/
theorem isWord_guardDigit (hne : w ≠ "") (h : ∀ c ∈ w.toList, isWordChar c = true) :
    isWord (guardDigit w) = true := by
  rw [guardDigit]
  cases hlist : w.toList with
  | nil => exact absurd (String.toList_eq_nil_iff.mp hlist) hne
  | cons c rest =>
    rw [hlist] at h
    cases hdigit : isDigit c with
    | true =>
      simp only [hdigit, if_true]
      simp only [isWord, String.toList_append, hlist]
      show (isWordStart '_' && (c :: rest).all isWordChar) = true
      rw [Bool.and_eq_true]
      exact ⟨by decide, List.all_eq_true.mpr h⟩
    | false =>
      simp only [hdigit, Bool.false_eq_true, if_false]
      simp only [isWord, hlist, Bool.and_eq_true]
      obtain ⟨hc, hrest⟩ := List.forall_mem_cons.mp h
      exact ⟨isWordStart_of_not_digit hc hdigit, List.all_eq_true.mpr hrest⟩

/-! ## The characters of a name in a case -/

theorem wordChar_smallOf (h : isWordChar c = true) : isWordChar (smallOf c) = true :=
  wordChar_of_snakeChar (snakeChar_smallOf h)

theorem titleChar_eq (h : isWordChar c = true) : Text.titleChar c = [capitalOf c] := by
  have hlt := toNat_lt_of_wordChar h
  rw [Text.titleChar, if_pos hlt, Text.upperChar, Text.mapCase, if_pos hlt]
  rfl

/-- Capitalizing a part of a snake case leaves word characters. -/
theorem wordChar_capitalizeChars (h : ∀ d ∈ cs, isSnakeChar d = true)
    (hc : c ∈ Text.capitalizeChars cs) : isWordChar c = true := by
  have hword : ∀ d ∈ cs, isWordChar d = true := fun d hd => wordChar_of_snakeChar (h d hd)
  cases cs with
  | nil => cases hc
  | cons d rest =>
    obtain ⟨hd, hrest⟩ := List.forall_mem_cons.mp hword
    rw [Text.capitalizeChars, titleChar_eq hd, lowerAfter_eq_map hrest] at hc
    rcases List.mem_cons.mp hc with rfl | hc
    · exact wordChar_capitalOf (h d List.mem_cons_self)
    · obtain ⟨e, he, rfl⟩ := List.mem_map.mp hc
      exact wordChar_smallOf (hrest e he)

theorem snakeChar_of_mem_wordsOf {part : List Char} (h : Stem cs) (hpart : part ∈ wordsOf cs) :
    ∀ d ∈ part, isSnakeChar d = true :=
  fun d hd => h.snake.2 d (Text.mem_of_mem_splitAt hpart hd)

/-- **Every case keeps a cleaned name to word characters.** -/
theorem wordChar_convert (name : String) (case : NameCase) :
    ∀ c ∈ (convert (clean name) case).toList, isWordChar c = true := by
  have hstem := stem_clean name
  cases case with
  | snake => exact (@stem_stemOf .snake rfl name).word
  | screamingSnake => exact (@stem_stemOf .screamingSnake rfl name).word
  | asGiven => exact hstem.word
  | pascal =>
    intro c hc
    rw [convert, toPascal, String.toList_ofList] at hc
    obtain ⟨part, hpart, hc⟩ := List.mem_flatMap.mp hc
    exact wordChar_capitalizeChars (snakeChar_of_mem_wordsOf hstem hpart) hc
  | camel =>
    intro c hc
    rw [convert, toCamel] at hc
    cases hwords : wordsOf (clean name).toList with
    | nil => simp [hwords] at hc
    | cons first rest =>
      have hparts : ∀ part ∈ first :: rest, ∀ d ∈ part, isSnakeChar d = true := by
        rw [← hwords]
        exact fun part hpart => snakeChar_of_mem_wordsOf hstem hpart
      rw [hwords, String.toList_ofList] at hc
      rcases List.mem_append.mp hc with hc | hc
      · exact wordChar_of_snakeChar (hparts first List.mem_cons_self c hc)
      · obtain ⟨part, hpart, hc⟩ := List.mem_flatMap.mp hc
        exact wordChar_capitalizeChars (hparts part (List.mem_cons_of_mem first hpart)) hc

/-- **Before reserved words are looked at, any name is a word** in every case. -/
theorem isWord_word (name : String) (case : NameCase) : isWord (word name case) = true := by
  rw [word]
  split
  · apply isWord_guardDigit
    · intro hempty
      exact (stem_clean name).nonempty (by rw [hempty]; rfl)
    · exact (stem_clean name).word
  · next hne => exact isWord_guardDigit hne (wordChar_convert name case)

/-! ## Reserved words -/

theorem sanitize_cases (s : Sanitizer) (name : String) (case : NameCase) :
    (word name case ∈ s.reserved ∧ s.sanitize name case = s.before ++ word name case ++ s.after) ∨
    (word name case ∉ s.reserved ∧ s.sanitize name case = word name case) := by
  rw [Sanitizer.sanitize]
  by_cases h : word name case ∈ s.reserved
  · left
    simp [h]
  · right
    simp [h]

/-- No keyword of Python ends with a low line. -/
theorem append_low_notMem_pythonKeywords (w : String) : w ++ "_" ∉ pythonKeywords := by
  have hnone : ∀ k ∈ pythonKeywords, k.toList.getLast? ≠ some '_' := by decide
  intro h
  apply hnone _ h
  simp

theorem python_sanitize_word (name : String) (case : NameCase) :
    isWord (Sanitizer.python.sanitize name case) = true ∧
      Sanitizer.python.sanitize name case ∉ pythonKeywords := by
  have hword := isWord_word name case
  rcases sanitize_cases Sanitizer.python name case with ⟨_, h⟩ | ⟨hfree, h⟩
  · have h : Sanitizer.python.sanitize name case = word name case ++ "_" := by
      rw [h, Sanitizer.python, String.empty_append]
    rw [h]
    refine ⟨isWord_append hword ?_, append_low_notMem_pythonKeywords _⟩
    intro c hc
    rw [List.mem_singleton.mp hc]
    rfl
  · rw [h]
    exact ⟨hword, hfree⟩

theorem kotlin_sanitize_word (name : String) (case : NameCase) :
    (isWord (Sanitizer.kotlin.sanitize name case) = true ∧
      Sanitizer.kotlin.sanitize name case ∉ kotlinKeywords) ∨
    ∃ k ∈ kotlinKeywords, Sanitizer.kotlin.sanitize name case = "`" ++ k ++ "`" := by
  rcases sanitize_cases Sanitizer.kotlin name case with ⟨hk, h⟩ | ⟨hfree, h⟩
  · exact Or.inr ⟨_, hk, h⟩
  · left
    rw [h]
    exact ⟨isWord_word name case, hfree⟩

/-! ## Patterns -/

/-- The pattern for Kotlin puts a reserved word between backticks. -/
def kotlinPattern : String := "`\x7b\x7d`"

theorem fill_standardPattern (w : String) :
    Pattern.fill Sanitizer.standardPattern w = .ok ("" ++ w ++ "_") := by
  have hfill : Pattern.fillWithin w.toList 2 .none Sanitizer.standardPattern.toList =
      .ok (w.toList ++ ['_'], .plain 1) := rfl
  rw [Pattern.fill, hfill]
  simp [Except.map]

theorem fill_kotlinPattern (w : String) :
    Pattern.fill kotlinPattern w = .ok ("`" ++ w ++ "`") := by
  have hfill : Pattern.fillWithin w.toList 2 .none kotlinPattern.toList =
      .ok ('`' :: w.toList ++ ['`'], .plain 1) := rfl
  rw [Pattern.fill, hfill]
  simp [Except.map, ← String.toList_inj]

/-- A pattern that fills to what stands around a word sanitizes as the sanitizer does. -/
theorem wordUnder_eq_sanitize {pattern : String}
    (h : ∀ w, Pattern.fill pattern w = .ok (s.before ++ w ++ s.after)) (name : String)
    (case : NameCase) :
    wordUnder s.reserved pattern name case = .ok (s.sanitize name case) := by
  rw [wordUnder, Sanitizer.sanitize]
  by_cases hw : s.reserved.contains (word name case) = true
  · simp only [if_pos hw, h]
  · simp only [if_neg hw]

/-- A sanitizer that starts with nothing remembered answers every call as if it were the first. -/
theorem calls_wordUnder {pattern : String}
    (h : ∀ w, Pattern.fill pattern w = .ok (s.before ++ w ++ s.after))
    (calls : List (String × NameCase)) :
    Memo.calls (wordUnder s.reserved pattern) [] calls =
      calls.map fun c => .ok (s.sanitize c.1 c.2) := by
  rw [Memo.calls_of_sound Memo.sound_nil]
  exact List.map_congr_left fun c _ => wordUnder_eq_sanitize h c.1 c.2

/-! ## Sanitizing twice -/

/-- What the sanitizer puts around a word is cleaned away: it has no letter and no digit. -/
def Sanitizer.IsPlain (s : Sanitizer) : Prop :=
  ∀ c ∈ s.before.toList ++ s.after.toList, isWordChar c = true → c = '_'

theorem python_isPlain : Sanitizer.python.IsPlain := by
  intro c hc _
  exact List.mem_singleton.mp hc

theorem kotlin_isPlain : Sanitizer.kotlin.IsPlain := by
  intro c hc hword
  -- The character of the escape, a backtick, is no word character.
  have hc : c = Char.ofNat 96 := by simpa [Sanitizer.kotlin] using hc
  rw [hc] at hword
  cases hword

/-- Cleaning takes back what stands around a stem. -/
theorem clean_of_around {as bs : List Char} {x : String} (hx : Stem cs)
    (hlist : x.toList = as ++ cs ++ bs) (ha : ∀ c ∈ as, isWordChar c = true → c = '_')
    (hb : ∀ c ∈ bs, isWordChar c = true → c = '_') : clean x = .ofList cs := by
  have hlow : ∀ ds : List Char, (∀ c ∈ ds, isWordChar c = true → c = '_') →
      ∀ d ∈ ds.map fun c => if isWordChar c then c else '_', d = '_' := by
    intro ds hds d hd
    obtain ⟨c, hc, rfl⟩ := List.mem_map.mp hd
    split
    · next hword => exact hds c hc hword
    · rfl
  have hcs : (cs.map fun c => if isWordChar c then c else '_') = cs := by
    refine (List.map_congr_left ?_).trans (List.map_id cs)
    intro c hc
    rw [if_pos (hx.word c hc), id]
  have hstrip : Text.strip '_' (x.toList.map fun c => if isWordChar c then c else '_') = cs := by
    rw [hlist, List.map_append, List.map_append, hcs]
    exact Text.strip_append (hlow as ha) (hlow bs hb) hx.bare
  rw [clean, hstrip]
  simp [hx.nonempty]

/-- **Cleaning a sanitized name leaves the stem of the name.** -/
theorem clean_sanitize (hs : s.IsPlain) (h : case.isLined = true) (name : String) :
    clean (s.sanitize name case) = stemOf name case := by
  have hbefore : ∀ c ∈ s.before.toList, isWordChar c = true → c = '_' :=
    fun c hc => hs c (List.mem_append_left _ hc)
  have hafter : ∀ c ∈ s.after.toList, isWordChar c = true → c = '_' :=
    fun c hc => hs c (List.mem_append_right _ hc)
  -- The guard is nothing, or a low line.
  obtain ⟨guard, hguard, hword⟩ : ∃ guard : List Char, (∀ c ∈ guard, c = '_') ∧
      (word name case).toList = guard ++ (stemOf name case).toList := by
    rw [word_eq_guardDigit h]
    rcases toList_guardDigit (stemOf name case) with hsame | ⟨c, rest, hstem, _, hlow⟩
    · exact ⟨[], by simp, hsame⟩
    · exact ⟨['_'], by simp, by rw [hlow, hstem]; rfl⟩
  have hstem := stem_stemOf h name
  rcases sanitize_cases s name case with ⟨_, hs⟩ | ⟨_, hs⟩
  · rw [hs, ← String.ofList_toList (s := stemOf name case)]
    apply @clean_of_around _ (s.before.toList ++ guard) s.after.toList _ hstem
    · simp [hword]
    · intro c hc hwordChar
      rcases List.mem_append.mp hc with hc | hc
      · exact hbefore c hc hwordChar
      · exact hguard c hc
    · exact hafter
  · rw [hs, ← String.ofList_toList (s := stemOf name case)]
    apply @clean_of_around _ guard [] _ hstem
    · simp [hword]
    · exact fun c hc _ => hguard c hc
    · simp

/-- A name that is sanitized in the case is left alone by sanitizing it again. -/
def Sanitizer.Settles (s : Sanitizer) (case : NameCase) : Prop :=
  ∀ name, s.sanitize (s.sanitize name case) case = s.sanitize name case

/-- **In a case that keeps its own result, sanitizing twice is sanitizing once.** -/
theorem settles_of_convert (hs : s.IsPlain) (h : case.isLined = true)
    (hcase : ∀ x, convert (convert x case) case = convert x case) : s.Settles case := by
  intro name
  have hword : word (s.sanitize name case) case = word name case := by
    rw [word_eq_guardDigit h, word_eq_guardDigit h, stemOf, clean_sanitize hs h, stemOf, hcase]
  rw [Sanitizer.sanitize, hword]
  rfl

theorem settles_asGiven (hs : s.IsPlain) : s.Settles .asGiven :=
  settles_of_convert hs rfl fun _ => rfl

theorem settles_snake (hs : s.IsPlain) : s.Settles .snake :=
  settles_of_convert hs rfl toSnake_toSnake

/-- **Sanitized names are safe.** Neither sanitizer ever fails, whatever it was asked before. Names
for Python are words that are not reserved; names for Kotlin are such words, or reserved words
between backticks. As given and in snake case, a sanitized name is sanitized already. -/
theorem sanitized_safe :
    (∀ calls, Memo.calls (wordUnder pythonKeywords Sanitizer.standardPattern) [] calls =
      calls.map fun c => .ok (Sanitizer.python.sanitize c.1 c.2)) ∧
    (∀ calls, Memo.calls (wordUnder kotlinKeywords kotlinPattern) [] calls =
      calls.map fun c => .ok (Sanitizer.kotlin.sanitize c.1 c.2)) ∧
    (∀ name case, isWord (Sanitizer.python.sanitize name case) = true ∧
      Sanitizer.python.sanitize name case ∉ pythonKeywords) ∧
    (∀ name case, (isWord (Sanitizer.kotlin.sanitize name case) = true ∧
      Sanitizer.kotlin.sanitize name case ∉ kotlinKeywords) ∨
      ∃ k ∈ kotlinKeywords, Sanitizer.kotlin.sanitize name case = "`" ++ k ++ "`") ∧
    (Sanitizer.python.Settles .asGiven ∧ Sanitizer.python.Settles .snake) ∧
    Sanitizer.kotlin.Settles .asGiven ∧ Sanitizer.kotlin.Settles .snake := by
  refine ⟨?_, ?_, python_sanitize_word, kotlin_sanitize_word, ?_, ?_⟩
  · exact calls_wordUnder (s := Sanitizer.python) fill_standardPattern
  · exact calls_wordUnder (s := Sanitizer.kotlin) fill_kotlinPattern
  · exact ⟨settles_asGiven python_isPlain, settles_snake python_isPlain⟩
  · exact ⟨settles_asGiven kotlin_isPlain, settles_snake kotlin_isPlain⟩

end Identifier
end ClassModel
