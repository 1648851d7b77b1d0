import ClassModel.Proofs.Text.LowerCase
import ClassModel.Text.Identifier
import Mathlib.Data.Nat.Bitwise

/-!
# Identifiers in another case

A change of case keeps what a character may be in an identifier: its lower case, upper case and
title case go on an identifier exactly if the character does, and start one exactly if it does. The
one exception is the iota below a letter (`subscriptIota`): it starts no identifier, but in upper
case it is a letter of its own.

These are facts about tables, and they are read off all of them at once. A class of characters is
put into one number with a bit for each of its code points (`Ranges.mask`), and so a code point is
looked up in one step.
-/

set_option autoImplicit false

namespace ClassModel
namespace Text

/-! ## Ranges as numbers -/

namespace Ranges

variable {r : Ranges} {low n : Nat}

/-- The ranges as one number, with a bit for each code point. -/
def mask : Ranges → Nat
  | [] => 0
  | (first, last) :: rest => ((2 ^ (last + 1 - first) - 1) <<< first) ||| mask rest

/-- Each range starts after the end of the one before it, the first one not before `low`. -/
def ascendingFrom : Nat → Ranges → Bool
  | _, [] => true
  | low, (first, last) :: rest =>
    low.ble first && first.ble last && ascendingFrom (last + 1) rest

theorem testBit_mask_cons (first last : Nat) (rest : Ranges) (n : Nat) :
    (mask ((first, last) :: rest)).testBit n =
      ((decide (first ≤ n) && decide (n ≤ last)) || (mask rest).testBit n) := by
  rw [mask, Nat.testBit_or, Nat.testBit_shiftLeft, Nat.testBit_two_pow_sub_one]
  congr 1
  by_cases h : first ≤ n
  · have hiff : n - first < last + 1 - first ↔ n ≤ last := by omega
    simp [h, hiff]
  · simp [h]

theorem testBit_mask_of_lt (h : r.ascendingFrom low = true) (hn : n < low) :
    r.mask.testBit n = false := by
  induction r generalizing low with
  | nil => exact Nat.zero_testBit n
  | cons p rest ih =>
    obtain ⟨first, last⟩ := p
    rw [ascendingFrom, Bool.and_eq_true, Bool.and_eq_true, Nat.ble_eq, Nat.ble_eq] at h
    obtain ⟨⟨hfirst, hlast⟩, hrest⟩ := h
    have hbefore : ¬ first ≤ n := by omega
    rw [testBit_mask_cons, ih hrest (by omega)]
    simp [hbefore]

/-- **The number holds what the ranges hold.** -/
theorem has_eq_testBit (h : r.ascendingFrom low = true) (n : Nat) : r.has n = r.mask.testBit n := by
  induction r generalizing low with
  | nil => exact (Nat.zero_testBit n).symm
  | cons p rest ih =>
    obtain ⟨first, last⟩ := p
    rw [ascendingFrom, Bool.and_eq_true, Bool.and_eq_true, Nat.ble_eq, Nat.ble_eq] at h
    obtain ⟨⟨_, hlast⟩, hrest⟩ := h
    rw [has, testBit_mask_cons, ← ih hrest]
    by_cases hn : n < first
    · have hbefore : ¬ first ≤ n := by omega
      have hafter : has rest n = false := by
        rw [ih hrest, testBit_mask_of_lt hrest (by omega)]
      simp [hn, hbefore, hafter]
    · have hfrom : first ≤ n := by omega
      simp [hn, hfrom]

end Ranges

/-! ## Mappings that keep a class -/

/-- The runs lead into the class exactly from inside it, the exceptions left out. -/
def CaseRuns.keeps (runs : CaseRuns) (except : List Nat) (mask : Nat) : Bool :=
  runs.all fun (first, last, stride, target) =>
    (List.range ((last - first) / stride + 1)).all fun i =>
      except.contains (first + stride * i) ||
        mask.testBit (target + stride * i) == mask.testBit (first + stride * i)

theorem CaseRuns.testBit_shift {runs : CaseRuns} {except : List Nat} {mask n : Nat}
    (h : runs.keeps except mask = true) (hn : n ∉ except) :
    mask.testBit (runs.shift n) = mask.testBit n := by
  rcases runs.shift_cases n with hstay | ⟨⟨first, last, stride, target⟩, hr, hrun⟩
  · rw [hstay]
  · obtain ⟨hfirst, hlast, hstride, hshift⟩ := hrun
    dsimp only at hfirst hlast hstride hshift
    have hsteps : n - first = stride * ((n - first) / stride) := by
      have hdiv := Nat.div_add_mod (n - first) stride
      omega
    have hle : (n - first) / stride ≤ (last - first) / stride :=
      Nat.div_le_div_right (by omega)
    have hall := List.all_eq_true.mp (List.all_eq_true.mp h _ hr) ((n - first) / stride)
      (List.mem_range.mpr (Nat.lt_succ_of_le hle))
    rw [← hsteps, Nat.add_sub_cancel' hfirst] at hall
    rw [hshift]
    rcases Bool.or_eq_true_iff.mp hall with hexcept | hsame
    · exact absurd (List.contains_iff_mem.mp hexcept) hn
    · exact beq_iff_eq.mp hsame

theorem CaseExpansions.mem_of_lookup {exps : CaseExpansions} {n : Nat} {ns : List Nat}
    (h : exps.lookup n = some ns) : (n, ns) ∈ exps := by
  obtain ⟨before, after, hsplit, _⟩ := List.lookup_eq_some_iff.mp h
  simp [hsplit]

/-- What the expansions give are characters, and together they are in the class exactly if the
character that is expanded is. -/
def CaseExpansions.keep (exps : CaseExpansions) (P : List Nat → Bool) (mask : Nat) : Bool :=
  exps.all fun (n, ns) => ns.all isCodePoint && P ns == mask.testBit n

theorem CaseExpansions.of_lookup {exps : CaseExpansions} {P : List Nat → Bool} {mask n : Nat}
    {ns : List Nat} (h : exps.keep P mask = true) (hns : exps.lookup n = some ns) :
    P ((ns.map Char.ofNat).map Char.toNat) = mask.testBit n := by
  have hkeep := List.all_eq_true.mp h _ (mem_of_lookup hns)
  rw [Bool.and_eq_true, beq_iff_eq] at hkeep
  obtain ⟨hchars, hsame⟩ := hkeep
  have hback : (ns.map Char.ofNat).map Char.toNat = ns := by
    rw [List.map_map]
    refine (List.map_congr_left ?_).trans (List.map_id ns)
    intro m hm
    exact toNat_ofNat_of_isCodePoint (List.all_eq_true.mp hchars m hm)
  rw [hback, hsame]

/-- **A mapping keeps a class** if its runs and its expansions do. -/
theorem mapCase_keeps {exps : CaseExpansions} {runs : CaseRuns} {except : List Nat}
    {P : List Nat → Bool} {mask : Nat} {c : Char} (hP : ∀ n, P [n] = mask.testBit n)
    (hchars : ∀ c : Char, (Char.ofNat (runs.shift c.toNat)).toNat = runs.shift c.toNat)
    (hruns : runs.keeps except mask = true) (hexps : exps.keep P mask = true)
    (hc : c.toNat ∉ except) :
    P ((mapCase exps runs c).map Char.toNat) = mask.testBit c.toNat := by
  have hshift : P ([Char.ofNat (runs.shift c.toNat)].map Char.toNat) = mask.testBit c.toNat := by
    rw [List.map_singleton, hP, hchars, CaseRuns.testBit_shift hruns hc]
  rw [mapCase]
  split
  · exact hshift
  · split
    · next ns hns => exact CaseExpansions.of_lookup hexps hns
    · exact hshift

/-! ## The classes of an identifier -/

/-- May an identifier go on with the code points? -/
def goOn (ns : List Nat) : Bool := ns.all identifierContinueRanges.mask.testBit

/-- Do the code points make an identifier? -/
def identify : List Nat → Bool
  | [] => false
  | n :: rest => identifierStartRanges.mask.testBit n && goOn rest

/-- Do the characters make an identifier? -/
def isIdentifierChars : List Char → Bool
  | [] => false
  | c :: rest => isIdentifierStart c && rest.all isIdentifierContinue

theorem isIdentifier_eq (s : String) : isIdentifier s = isIdentifierChars s.toList := by
  rw [isIdentifier]
  cases s.toList with
  | nil => rfl
  | cons c rest => rfl

/-- The iota below a letter. In upper case it is a letter of its own. -/
def subscriptIota : Char := Char.ofNat 0x345

/-- Is the upper case of the character the start of an identifier? -/
def startsInUpper (c : Char) : Bool := isIdentifierStart c || c == subscriptIota

theorem goOn_singleton (n : Nat) : goOn [n] = identifierContinueRanges.mask.testBit n := by
  simp [goOn]

theorem identify_singleton (n : Nat) :
    identify [n] = identifierStartRanges.mask.testBit n := by
  simp [identify, goOn]

/-- Both tables are in order, and what may start an identifier may go on one. -/
theorem identifierRanges_nested :
    identifierStartRanges.ascendingFrom 0 = true ∧
      identifierContinueRanges.ascendingFrom 0 = true ∧
      identifierStartRanges.mask &&& identifierContinueRanges.mask =
        identifierStartRanges.mask := by
  decide +kernel

theorem isIdentifierStart_eq (c : Char) :
    isIdentifierStart c = identifierStartRanges.mask.testBit c.toNat :=
  Ranges.has_eq_testBit identifierRanges_nested.1 _

theorem isIdentifierContinue_eq (c : Char) :
    isIdentifierContinue c = identifierContinueRanges.mask.testBit c.toNat :=
  Ranges.has_eq_testBit identifierRanges_nested.2.1 _

theorem all_isIdentifierContinue (cs : List Char) :
    cs.all isIdentifierContinue = goOn (cs.map Char.toNat) := by
  rw [goOn, List.all_map]
  exact List.all_congr rfl fun c => isIdentifierContinue_eq c

theorem isIdentifierChars_eq (cs : List Char) :
    isIdentifierChars cs = identify (cs.map Char.toNat) := by
  cases cs with
  | nil => rfl
  | cons c rest =>
    rw [isIdentifierChars, isIdentifierStart_eq, all_isIdentifierContinue, List.map_cons, identify]

theorem isIdentifierContinue_of_start {c : Char} (h : isIdentifierStart c = true) :
    isIdentifierContinue c = true := by
  rw [isIdentifierStart_eq, ← identifierRanges_nested.2.2, Nat.testBit_and,
    Bool.and_eq_true] at h
  rw [isIdentifierContinue_eq]
  exact h.2

theorem isIdentifierContinue_of_startsInUpper {c : Char} (h : startsInUpper c = true) :
    isIdentifierContinue c = true := by
  rcases Bool.or_eq_true_iff.mp h with h | h
  · exact isIdentifierContinue_of_start h
  · rw [beq_iff_eq.mp h]
    decide

theorem isIdentifierChars_append {cs ds : List Char} (h : cs ≠ []) :
    isIdentifierChars (cs ++ ds) = (isIdentifierChars cs && ds.all isIdentifierContinue) := by
  cases cs with
  | nil => exact absurd rfl h
  | cons c rest =>
    simp only [List.cons_append, isIdentifierChars, List.all_append, Bool.and_assoc]

/-! ## Lower case -/

/-- The table of lower case keeps what may go on an identifier, and what starts one in upper
case. -/
theorem lower_keeps :
    lowerRuns.keeps [] identifierContinueRanges.mask = true ∧
      lowerExpansions.keep goOn identifierContinueRanges.mask = true ∧
      lowerRuns.keeps [] (identifierStartRanges.mask ||| 2 ^ 0x345) = true := by
  decide +kernel

theorem all_continue_lowerChar (c : Char) :
    (lowerChar c).all isIdentifierContinue = isIdentifierContinue c := by
  rw [all_isIdentifierContinue, isIdentifierContinue_eq]
  exact mapCase_keeps goOn_singleton (CaseRuns.toNat_ofNat_shift lowerRuns_leadToChars)
    lower_keeps.1 lower_keeps.2.1 List.not_mem_nil

theorem startsInUpper_eq (c : Char) :
    startsInUpper c = (identifierStartRanges.mask ||| 2 ^ 0x345).testBit c.toNat := by
  rw [startsInUpper, Nat.testBit_or, isIdentifierStart_eq, Nat.testBit_two_pow]
  congr 1
  rw [Bool.eq_iff_iff, beq_iff_eq, decide_eq_true_eq, ← Char.toNat_inj]
  exact eq_comm

/-- The lower case of a character starts an identifier in upper case exactly if the character
does. -/
theorem startsInUpper_shift (c : Char) :
    startsInUpper (Char.ofNat (lowerRuns.shift c.toNat)) = startsInUpper c := by
  rw [startsInUpper_eq, startsInUpper_eq, CaseRuns.toNat_ofNat_shift lowerRuns_leadToChars]
  exact CaseRuns.testBit_shift lower_keeps.2.2 List.not_mem_nil

/-! ## Upper case and title case -/

/-- The tables of upper case keep both classes, one character apart, and lead to characters. -/
theorem upper_keeps :
    upperRuns.all leadsToChars = true ∧ (upperExpansions.all fun e => !e.2.isEmpty) = true ∧
      (upperRuns.keeps [0x345] identifierStartRanges.mask = true ∧
        upperExpansions.keep identify identifierStartRanges.mask = true) ∧
      upperRuns.keeps [] identifierContinueRanges.mask = true ∧
        upperExpansions.keep goOn identifierContinueRanges.mask = true := by
  decide +kernel

/-- The exceptions of title case keep both classes. -/
theorem title_keeps :
    (titleExceptions.all fun e => !e.2.isEmpty) = true ∧
      titleExceptions.lookup 0x345 = none ∧
      titleExceptions.keep identify identifierStartRanges.mask = true ∧
      titleExceptions.keep goOn identifierContinueRanges.mask = true := by
  decide +kernel

theorem all_continue_upperChar (c : Char) :
    (upperChar c).all isIdentifierContinue = isIdentifierContinue c := by
  obtain ⟨hchars, _, _, hruns, hexps⟩ := upper_keeps
  rw [all_isIdentifierContinue, isIdentifierContinue_eq]
  exact mapCase_keeps goOn_singleton (CaseRuns.toNat_ofNat_shift hchars) hruns hexps
    List.not_mem_nil

/-- **The upper case of a character** is an identifier exactly if the character starts one in upper
case. -/
theorem isIdentifierChars_upperChar (c : Char) :
    isIdentifierChars (upperChar c) = startsInUpper c := by
  obtain ⟨hchars, _, ⟨hruns, hexps⟩, _⟩ := upper_keeps
  by_cases hc : c = subscriptIota
  · subst hc
    decide
  · have hne : c.toNat ∉ [0x345] := by
      intro h
      exact hc (Char.toNat_inj.mp (List.mem_singleton.mp h))
    rw [startsInUpper, beq_eq_false_iff_ne.mpr hc, Bool.or_false, isIdentifierChars_eq,
      isIdentifierStart_eq]
    exact mapCase_keeps identify_singleton (CaseRuns.toNat_ofNat_shift hchars) hruns hexps hne

theorem upperChar_ne_nil (c : Char) : upperChar c ≠ [] := by
  rw [upperChar, mapCase]
  split
  · exact List.cons_ne_nil _ _
  · split
    · next ns hns =>
      have hne := List.all_eq_true.mp upper_keeps.2.1 _
        (CaseExpansions.mem_of_lookup hns)
      simpa using hne
    · exact List.cons_ne_nil _ _

/-- Title case is upper case or an exception. -/
theorem titleChar_cases (c : Char) : titleChar c = upperChar c ∨
    ∃ ns, titleExceptions.lookup c.toNat = some ns ∧ titleChar c = ns.map Char.ofNat := by
  rw [titleChar]
  split
  · exact Or.inl rfl
  · split
    · next ns hns => exact Or.inr ⟨ns, hns, rfl⟩
    · exact Or.inl rfl

theorem titleChar_ne_nil (c : Char) : titleChar c ≠ [] := by
  rcases titleChar_cases c with h | ⟨ns, hns, h⟩
  · rw [h]
    exact upperChar_ne_nil c
  · have hne := List.all_eq_true.mp title_keeps.1 _ (CaseExpansions.mem_of_lookup hns)
    rw [h]
    simpa using hne

theorem all_continue_titleChar (c : Char) :
    (titleChar c).all isIdentifierContinue = isIdentifierContinue c := by
  rcases titleChar_cases c with h | ⟨ns, hns, h⟩
  · rw [h]
    exact all_continue_upperChar c
  · rw [h, all_isIdentifierContinue, isIdentifierContinue_eq]
    exact CaseExpansions.of_lookup title_keeps.2.2.2 hns

theorem isIdentifierChars_titleChar (c : Char) :
    isIdentifierChars (titleChar c) = startsInUpper c := by
  rcases titleChar_cases c with h | ⟨ns, hns, h⟩
  · rw [h]
    exact isIdentifierChars_upperChar c
  · have hne : c ≠ subscriptIota := by
      rintro rfl
      have hnone : titleExceptions.lookup subscriptIota.toNat = none := title_keeps.2.1
      rw [hnone] at hns
      cases hns
    rw [startsInUpper, beq_eq_false_iff_ne.mpr hne, Bool.or_false, h, isIdentifierChars_eq,
      isIdentifierStart_eq]
    exact CaseExpansions.of_lookup title_keeps.2.2.1 hns

end Text
end ClassModel
