import ClassModel.Json.Parser
import Mathlib.Data.List.Infix
import Mathlib.Data.List.TakeWhile

/-!
# Texts that are not read because of a limit

The reader refuses some texts that are JSON: those with a whole number of too many digits, and those
that go too deep. Both faults leave a trace in the text, a long run of digits or many opening
brackets (`Explained`), so a text without it is read or is no JSON.

What a reader leaves is the end of what it was given. So a trace that a later part of the text has,
the text has too, and what one step of reading keeps (`Sound`) the whole run keeps.
-/

set_option autoImplicit false

namespace ClassModel
namespace Json

variable {α β : Type} {levels : Nat} {cs ds : List Char}

/-- Does the character open a list or an object? -/
def isOpening (c : Char) : Bool := c = '[' || c = '\x7b'

/-- More digits than a whole number may have stand in a row. -/
def HasLongRun (cs : List Char) : Prop :=
  ∃ digits, mostDigits < digits.length ∧ (∀ d ∈ digits, d.isDigit = true) ∧ digits <:+: cs

/-- What the fault of a reader says about the characters that it was given. -/
def Explained (levels : Nat) (cs : List Char) : ParseError → Prop
  | .integerTooLong => HasLongRun cs
  | .tooDeep => levels < cs.countP isOpening
  | .malformed _ _ => True

/-- What a reader comes to: it leaves the end of the characters that it was given, or has a fault
that they explain. -/
inductive Sound (levels : Nat) (cs : List Char) : Except ParseError (α × Cursor) → Prop
  | read {v : α} {c : Cursor} : c.rest <:+ cs → Sound levels cs (.ok (v, c))
  | refused {e : ParseError} : Explained levels cs e → Sound levels cs (.error e)

theorem HasLongRun.mono (h : HasLongRun ds) (hin : ds <:+: cs) : HasLongRun cs := by
  obtain ⟨digits, hlong, hdigits, hrun⟩ := h
  exact ⟨digits, hlong, hdigits, hrun.trans hin⟩

theorem Explained.of_suffix {e : ParseError} (h : Explained levels ds e) (hsub : ds <:+ cs) :
    Explained levels cs e := by
  cases e with
  | malformed => trivial
  | integerTooLong => exact HasLongRun.mono h hsub.isInfix
  | tooDeep => exact Nat.lt_of_lt_of_le h (hsub.sublist.countP_le)

theorem Sound.of_suffix {r : Except ParseError (α × Cursor)} (h : Sound levels ds r)
    (hsub : ds <:+ cs) : Sound levels cs r := by
  cases h with
  | read hrest => exact .read (hrest.trans hsub)
  | refused he => exact .refused (he.of_suffix hsub)

/-- A reader that goes on where another one has stopped. -/
theorem Sound.bind {r : Except ParseError (α × Cursor)}
    {next : α × Cursor → Except ParseError (β × Cursor)} (h : Sound levels cs r)
    (hnext : ∀ v c, c.rest <:+ cs → Sound levels c.rest (next (v, c))) :
    Sound levels cs (r >>= next) := by
  cases h with
  | read hrest => exact (hnext _ _ hrest).of_suffix hrest
  | refused he => exact .refused he

theorem sound_malformed (problem : Problem) (position : Nat) :
    Sound levels cs (.error (.malformed problem position) : Except ParseError (α × Cursor)) :=
  .refused trivial

theorem skip_suffix (c : Cursor) : c.skip.rest <:+ c.rest := List.dropWhile_suffix _

theorem advance_suffix (c : Cursor) (n : Nat) : (c.advance n).rest <:+ c.rest :=
  List.drop_suffix n c.rest

/-- The reader behind a character and the blanks after it. -/
theorem next_suffix (c : Cursor) : (c.advance 1).skip.rest <:+ c.rest :=
  (skip_suffix _).trans (advance_suffix c 1)

theorem inside_suffix {c : Cursor} {o : Char} {rest : List Char} (hc : c.rest = o :: rest) :
    (c.advance 1).skip.rest <:+ rest := by
  have htail : (c.advance 1).rest = rest := by
    rw [Cursor.advance, hc]
    rfl
  rw [← htail]
  exact skip_suffix _

/-! ## Texts, numbers and words -/

theorem readEscape_error {start p : Nat} {e : ParseError} (h : readEscape start p cs = .error e) :
    ∃ problem position, e = .malformed problem position := by
  unfold readEscape at h
  repeat' split at h
  all_goals first
    | (cases h; exact ⟨_, _, rfl⟩)
    | cases h

theorem sound_readString (start skip p : Nat) (acc cs : List Char) :
    Sound levels cs (readString start skip p acc cs) := by
  induction cs generalizing skip p acc with
  | nil =>
    cases skip <;> exact sound_malformed _ _
  | cons c rest ih =>
    have hrest : rest <:+ c :: rest := List.suffix_cons c rest
    cases skip with
    | succ skip => exact (ih skip (p + 1) acc).of_suffix hrest
    | zero =>
      rw [readString]
      split
      · exact .read hrest
      · split
        · split
          · next herr =>
            obtain ⟨_, _, rfl⟩ := readEscape_error herr
            exact sound_malformed _ _
          · exact (ih _ _ _).of_suffix hrest
        · split
          · exact sound_malformed _ _
          · exact (ih _ _ _).of_suffix hrest

/-- The digits that a number starts with. -/
theorem digits_of_whole {rest : List Char} (d : Char)
    (hd : d ∈ match rest with | '0' :: _ => ['0'] | rest => rest.takeWhile Char.isDigit) :
    d.isDigit = true := by
  split at hd
  · rw [List.mem_singleton.mp hd]
    decide
  · exact List.mem_takeWhile_imp hd

theorem isPrefix_whole (rest : List Char) :
    (match rest with | '0' :: _ => ['0'] | rest => rest.takeWhile Char.isDigit) <+: rest := by
  split
  · next more => exact ⟨more, rfl⟩
  · exact List.takeWhile_prefix _

theorem sound_readNumber (c : Cursor) : Sound levels c.rest (readNumber c) := by
  unfold readNumber
  extract_lets negative afterSign whole afterWhole fraction afterFraction exponent after n places
  have hsign : afterSign.rest <:+ c.rest := advance_suffix _ _
  have hafter : after.rest <:+ c.rest :=
    (advance_suffix _ _).trans ((advance_suffix _ _).trans ((advance_suffix _ _).trans hsign))
  split
  · exact sound_malformed _ _
  · split
    · split
      · next hlong =>
        exact .refused ⟨whole, hlong, digits_of_whole,
          (isPrefix_whole _).isInfix.trans hsign.isInfix⟩
      · exact .read hafter
    · exact .read hafter

theorem sound_readPlain (c : Cursor) : Sound levels c.rest (readPlain c) := by
  rw [readPlain]
  split
  · exact .read (advance_suffix _ _)
  · exact sound_readNumber c

/-! ## Lists and objects -/

/-- What is read behind an opening bracket may go one level less deep. -/
theorem Sound.of_opening {o : Char} {rest : List Char} {r : Except ParseError (α × Cursor)}
    (ho : isOpening o = true) (hsub : ds <:+ rest) (h : Sound (levels - 1) ds r) :
    Sound levels (o :: rest) r := by
  have hcons : ds <:+ o :: rest := hsub.trans (List.suffix_cons o rest)
  cases h with
  | read hrest => exact .read (hrest.trans hcons)
  | @refused e he =>
    apply Sound.refused
    cases e with
    | malformed => trivial
    | integerTooLong => exact HasLongRun.mono he hcons.isInfix
    | tooDeep =>
      have hdeep : levels - 1 < ds.countP isOpening := he
      have hle := hsub.sublist.countP_le (p := isOpening)
      show levels < (o :: rest).countP isOpening
      rw [List.countP_cons_of_pos ho]
      omega

/-- A bracket opens one more level, if there may be one. -/
theorem sound_opened {c : Cursor} {o : Char} {rest : List Char}
    {r : Except ParseError (α × Cursor)} (ho : isOpening o = true) (hc : c.rest = o :: rest)
    (h : Sound (levels - 1) (c.advance 1).skip.rest r) :
    Sound levels c.rest (if levels = 0 then .error .tooDeep else r) := by
  rw [hc]
  split
  · apply Sound.refused
    show levels < (o :: rest).countP isOpening
    rw [List.countP_cons_of_pos ho]
    omega
  · exact Sound.of_opening ho (inside_suffix hc) h

/-- Readers of values, members and items are sound together, by induction on what bounds them. -/
theorem sound_readers (fuel : Nat) :
    (∀ levels c, Sound levels c.rest (readValue levels fuel c)) ∧
    (∀ levels c members, Sound levels c.rest (readMembers levels fuel c members)) ∧
    ∀ levels c items, Sound levels c.rest (readItems levels fuel c items) := by
  induction fuel with
  | zero =>
    refine ⟨?_, ?_, ?_⟩
    · intro levels c
      exact sound_malformed _ _
    · intro levels c members
      exact sound_malformed _ _
    · intro levels c items
      exact sound_malformed _ _
  | succ fuel ih =>
    obtain ⟨hvalue, hmembers, hitems⟩ := ih
    -- Each reader calls the others with one step less; opening a bracket also takes a level.
    refine ⟨?_, ?_, ?_⟩
    · intro levels c
      rw [readValue]
      split
      · next rest hc =>
        rw [hc]
        apply Sound.of_suffix _ (List.suffix_cons _ rest)
        exact (sound_readString _ _ _ _ rest).bind fun s c _ => .read List.suffix_rfl
      · next rest hc =>
        apply sound_opened (by decide) hc
        split
        · exact .read (advance_suffix _ 1)
        · exact hmembers _ _ _
      · next rest hc =>
        apply sound_opened (by decide) hc
        split
        · exact .read (advance_suffix _ 1)
        · exact hitems _ _ _
      · exact sound_readPlain c
    · intro levels c members
      rw [readMembers]
      split
      · next rest hc =>
        rw [hc]
        apply Sound.of_suffix _ (List.suffix_cons _ rest)
        apply (sound_readString _ _ _ _ rest).bind
        intro key c _
        apply Sound.of_suffix _ (skip_suffix c)
        dsimp only
        split
        · apply Sound.of_suffix _ (next_suffix c.skip)
          apply (hvalue levels _).bind
          intro v c _
          apply Sound.of_suffix _ (skip_suffix c)
          dsimp only
          split
          · exact .read (advance_suffix _ 1)
          · exact (hmembers levels _ _).of_suffix (next_suffix c.skip)
          · exact sound_malformed _ _
        · exact sound_malformed _ _
      · exact sound_malformed _ _
    · intro levels c items
      rw [readItems]
      apply (hvalue levels c).bind
      intro v c _
      apply Sound.of_suffix _ (skip_suffix c)
      dsimp only
      split
      · exact .read (advance_suffix _ 1)
      · exact (hitems levels _ _).of_suffix (next_suffix c.skip)
      · exact sound_malformed _ _

/-! ## Whole texts -/

/-- **The fault of a reader is explained by the text**: it has too long a run of digits, or more
opening brackets than there may be levels. -/
theorem explained_of_parse {text : String} {bound : Option Nat} {e : ParseError}
    (h : parse bound text = .error e) :
    Explained (bound.getD text.toList.length) text.toList e := by
  have hvalue := (sound_readers (text.toList.length + 1)).1 (bound.getD text.toList.length)
    (Cursor.skip ⟨text.toList, 0⟩)
  have hskip : (Cursor.skip ⟨text.toList, 0⟩).rest <:+ text.toList := skip_suffix _
  simp only [parse] at h
  split at h
  · cases h
    trivial
  · cases hread : readValue (bound.getD text.toList.length) (text.toList.length + 1)
        (Cursor.skip ⟨text.toList, 0⟩) with
    | error e' =>
      rw [hread] at h hvalue
      cases h
      cases hvalue with
      | refused he => exact he.of_suffix hskip
    | ok p =>
      obtain ⟨v, c⟩ := p
      rw [hread] at h
      change (if c.skip.rest.isEmpty then Except.ok v else _) = _ at h
      split at h
      · cases h
      · cases h
        trivial

/-- A text is too deep only where there is a bound, and it has more opening brackets than that. -/
theorem exists_bound_of_tooDeep {text : String} {bound : Option Nat}
    (h : parse bound text = .error .tooDeep) :
    ∃ levels ∈ bound, levels < text.toList.countP isOpening := by
  have hdeep : bound.getD text.toList.length < text.toList.countP isOpening :=
    explained_of_parse h
  cases bound with
  | none => exact absurd hdeep (Nat.not_lt_of_le List.countP_le_length)
  | some levels => exact ⟨levels, rfl, hdeep⟩

/-- A number of too many digits is refused, though it is JSON. -/
theorem parse_ones {n : Nat} (h : mostDigits < n) (bound : Option Nat) :
    parse bound (.ofList (List.replicate n '1')) = .error .integerTooLong := by
  obtain ⟨m, rfl⟩ : ∃ m, n = m + 1 := ⟨n - 1, by omega⟩
  have htake :
      (List.replicate (m + 1) '1').takeWhile Char.isDigit = List.replicate (m + 1) '1' := by
    rw [List.takeWhile_eq_self_iff]
    intro d hd
    rw [List.eq_of_mem_replicate hd]
    decide
  have hnumber : readNumber ⟨List.replicate (m + 1) '1', 0⟩ = .error .integerTooLong := by
    rw [List.replicate_succ] at htake ⊢
    simp [readNumber, Cursor.advance, htake, readFraction, readExponent, h]
  have hvalue : ∀ levels, readValue levels ((List.replicate (m + 1) '1').length + 1)
      ⟨List.replicate (m + 1) '1', 0⟩ = .error .integerTooLong := by
    intro levels
    rw [← hnumber, readValue, List.replicate_succ]
    rfl
  have hskip : Cursor.skip ⟨List.replicate (m + 1) '1', 0⟩ = ⟨List.replicate (m + 1) '1', 0⟩ := rfl
  have hmark : (List.replicate (m + 1) '1').head? ≠ some '\uFEFF' := by
    simp [List.replicate_succ]
  simp only [parse, String.toList_ofList, hmark, if_false, hskip, hvalue]
  rfl

end Json
end ClassModel
