import ClassModel.Text.CaseMap

/-!
# Lower case stays as it is

Names of languages, aliases and words are compared in lower case, so it has to be a form that a
text comes to once: what is in lower case already is left alone (`lower_lower`). It is a fact about
single characters. One that is `Small` is its own lower case, wherever it stands, and every
character that the mapping gives is small, those of the two small sigmas included.

For that the table is searched once: no run of it shifts a code point that a run shifts to
(`clear_lowerRuns`). A run takes every code point between its ends or every second one, and where
two runs share a part, the second kind is kept apart by parity.
-/

set_option autoImplicit false

namespace ClassModel
namespace Text

/-! ## What the runs shift -/

/-- No run shifts a code point from `low` to `high`. With `second`, only every second one of these
counts, from `low` on. -/
def CaseRuns.clear : CaseRuns → Nat → Nat → Bool → Bool
  | [], _, _, _ => true
  | (first, last, stride, _) :: rest, low, high, second =>
    bif high.blt first then true
    else bif last.blt low then CaseRuns.clear rest low high second
    else second && stride.beq 2 && ((low + first) % 2).beq 1 && CaseRuns.clear rest low high second

/-- A code point in a clear range stays. -/
theorem CaseRuns.shift_of_clear {runs : CaseRuns} {low high n : Nat} {second : Bool}
    (h : runs.clear low high second = true) (hlow : low ≤ n) (hhigh : n ≤ high)
    (hsecond : second = true → (n - low) % 2 = 0) : runs.shift n = n := by
  induction runs with
  | nil => rfl
  | cons r rest ih =>
    obtain ⟨first, last, stride, target⟩ := r
    rw [shift]
    by_cases hfirst : n < first
    · rw [if_pos hfirst]
    rw [if_neg hfirst]
    have hb : Nat.blt high first = false := by
      rw [Bool.eq_false_iff, Ne, Nat.blt_eq]
      omega
    rw [clear, hb, cond_false] at h
    by_cases hlast : last < low
    · rw [Nat.blt_eq.mpr hlast, cond_true] at h
      rw [if_neg (by omega), ih h]
    · have hb' : Nat.blt last low = false := by
        rw [Bool.eq_false_iff, Ne, Nat.blt_eq]
        exact hlast
      rw [hb', cond_false, Bool.and_eq_true, Bool.and_eq_true, Bool.and_eq_true] at h
      obtain ⟨⟨⟨hs, hstride⟩, hparity⟩, hrest⟩ := h
      have hstride : stride = 2 := Nat.eq_of_beq_eq_true hstride
      have hparity : (low + first) % 2 = 1 := Nat.eq_of_beq_eq_true hparity
      have heven : (n - low) % 2 = 0 := hsecond hs
      -- The run shifts the code points of one parity, and this one has the other.
      subst hstride
      rw [if_neg (by omega), ih hrest]

/-- What the runs shift is between the ends of a run, a number of strides from the first. -/
theorem CaseRuns.shift_cases (runs : CaseRuns) (n : Nat) : runs.shift n = n ∨
    ∃ r ∈ runs, r.1 ≤ n ∧ n ≤ r.2.1 ∧ (n - r.1) % r.2.2.1 = 0 ∧
      runs.shift n = r.2.2.2 + (n - r.1) := by
  induction runs with
  | nil => exact Or.inl rfl
  | cons r rest ih =>
    obtain ⟨first, last, stride, target⟩ := r
    rw [shift]
    split
    · exact Or.inl rfl
    · next hfirst =>
      split
      · next h =>
        exact Or.inr ⟨_, List.mem_cons_self, Nat.le_of_not_lt hfirst, h.1, h.2, rfl⟩
      · rcases ih with h | ⟨r, hr, h⟩
        · exact Or.inl h
        · exact Or.inr ⟨r, List.mem_cons_of_mem _ hr, h⟩

/-- Is the number the code point of a character? -/
def isCodePoint (n : Nat) : Bool := n.blt 0xD800 || Nat.blt 0xDFFF n && n.blt 0x110000

theorem toNat_ofNat_of_isCodePoint {n : Nat} (h : isCodePoint n = true) :
    (Char.ofNat n).toNat = n := by
  simp only [isCodePoint, Bool.or_eq_true, Bool.and_eq_true, Nat.blt_eq] at h
  have hvalid : Nat.isValidChar n := by
    rw [Nat.isValidChar]
    omega
  rw [Char.ofNat, dif_pos hvalid]
  rfl

/-- All that the run shifts to are characters, on one side of the surrogates. -/
def leadsToChars (r : Nat × Nat × Nat × Nat) : Bool :=
  let low := r.2.2.2
  let high := low + (r.2.1 - r.1)
  high.blt 0xD800 || Nat.blt 0xDFFF low && high.blt 0x110000

/-- What a character is shifted to is a character. -/
theorem CaseRuns.toNat_ofNat_shift {runs : CaseRuns} (h : runs.all leadsToChars = true)
    (c : Char) : (Char.ofNat (runs.shift c.toNat)).toNat = runs.shift c.toNat := by
  rcases runs.shift_cases c.toNat with hstay | ⟨r, hr, _, hlast, _, hshift⟩
  · rw [hstay, Char.ofNat_toNat]
  · have hleads := List.all_eq_true.mp h r hr
    simp only [leadsToChars, Bool.or_eq_true, Bool.and_eq_true, Nat.blt_eq] at hleads
    apply toNat_ofNat_of_isCodePoint
    rw [hshift]
    simp only [isCodePoint, Bool.or_eq_true, Bool.and_eq_true, Nat.blt_eq]
    omega

/-- What a run of the lower-case mapping shifts to is a character, not the capital with a dot that
has an expansion, and is not shifted again. -/
def isSettled (r : Nat × Nat × Nat × Nat) : Bool :=
  let low := r.2.2.2
  let high := low + (r.2.1 - r.1)
  leadsToChars r && (high.blt 0x0130 || Nat.blt 0x0130 low) &&
    lowerRuns.clear low high (r.2.2.1.beq 2 || r.1.beq r.2.1)

theorem clear_lowerRuns : lowerRuns.all isSettled = true := by decide +kernel

theorem lowerRuns_leadToChars : lowerRuns.all leadsToChars = true := by
  apply List.all_eq_true.mpr
  intro r hr
  have hsettled := List.all_eq_true.mp clear_lowerRuns r hr
  rw [isSettled, Bool.and_eq_true, Bool.and_eq_true] at hsettled
  exact hsettled.1.1

/-! ## Small characters -/

/-- The character is its own lower case. -/
def Small (c : Char) : Prop := c.toNat ≠ 0x0130 ∧ lowerRuns.shift c.toNat = c.toNat

instance (c : Char) : Decidable (Small c) := inferInstanceAs (Decidable (_ ∧ _))

/-- A character without an expansion is shifted. -/
theorem lowerChar_eq_shift {c : Char} (hc : c.toNat ≠ 0x0130) :
    lowerChar c = [Char.ofNat (lowerRuns.shift c.toNat)] := by
  have hlookup : lowerExpansions.lookup c.toNat = none := by
    have hne : (c.toNat == 0x0130) = false := beq_eq_false_iff_ne.mpr hc
    rw [lowerExpansions, List.lookup_cons, hne, List.lookup_nil]
  rw [lowerChar, mapCase, hlookup]
  split <;> rfl

theorem Small.lowerChar_eq {c : Char} (h : Small c) : lowerChar c = [c] := by
  rw [lowerChar_eq_shift h.1, h.2, Char.ofNat_toNat]

theorem Small.ne_sigma {c : Char} (h : Small c) : c ≠ 'Σ' := by
  rintro rfl
  exact absurd h (by decide)

theorem small_ofNat_shift (c : Char) (hc : c.toNat ≠ 0x0130) :
    Small (Char.ofNat (lowerRuns.shift c.toNat)) := by
  rw [Small, CaseRuns.toNat_ofNat_shift lowerRuns_leadToChars]
  rcases lowerRuns.shift_cases c.toNat with h | ⟨r, hr, hfirst, hlast, hstride, h⟩
  · rw [h]
    exact ⟨hc, h⟩
  · have hsettled := List.all_eq_true.mp clear_lowerRuns r hr
    rw [isSettled, Bool.and_eq_true, Bool.and_eq_true] at hsettled
    obtain ⟨⟨_, hdot⟩, hclear⟩ := hsettled
    simp only [Bool.or_eq_true, Nat.blt_eq] at hdot
    rw [h]
    refine ⟨by omega, CaseRuns.shift_of_clear hclear (by omega) (by omega) ?_⟩
    intro hsecond
    rcases Bool.or_eq_true_iff.mp hsecond with hs | hs
    · rw [Nat.eq_of_beq_eq_true hs] at hstride
      omega
    · have hends : r.1 = r.2.1 := Nat.eq_of_beq_eq_true hs
      omega

/-- **The lower case of a character is small.** -/
theorem small_of_mem_lowerChar {c d : Char} (h : d ∈ lowerChar c) : Small d := by
  by_cases hc : c.toNat = 0x0130
  · have hexp : lowerChar c = ['i', Char.ofNat 0x0307] := by
      rw [lowerChar, mapCase, hc]
      rfl
    rw [hexp] at h
    rcases List.mem_cons.mp h with rfl | h
    · decide
    · rw [List.mem_singleton.mp h]
      decide
  · rw [lowerChar_eq_shift hc, List.mem_singleton] at h
    subst h
    exact small_ofNat_shift c hc

/-! ## Texts -/

theorem small_of_mem_lowerAfter {before cs : List Char} {d : Char}
    (h : d ∈ lowerAfter before cs) : Small d := by
  induction cs generalizing before with
  | nil => cases h
  | cons c rest ih =>
    rw [lowerAfter] at h
    rcases List.mem_append.mp h with h | h
    · split at h
      · rw [List.mem_singleton] at h
        subst h
        split <;> decide
      · exact small_of_mem_lowerChar h
    · exact ih h

/-- Small characters stay, whatever stands before and after them. -/
theorem lowerAfter_eq_self {before cs : List Char} (h : ∀ c ∈ cs, Small c) :
    lowerAfter before cs = cs := by
  induction cs generalizing before with
  | nil => rfl
  | cons c rest ih =>
    obtain ⟨hc, hrest⟩ := List.forall_mem_cons.mp h
    rw [lowerAfter, if_neg hc.ne_sigma, hc.lowerChar_eq, ih hrest, List.singleton_append]

/-- **Lower case stays as it is.** -/
theorem lower_lower (s : String) : lower (lower s) = lower s := by
  have hsmall : ∀ c ∈ (lower s).toList, Small c := by
    intro c hc
    rw [lower, String.toList_ofList] at hc
    exact small_of_mem_lowerAfter hc
  rw [lower, lowerChars, lowerAfter_eq_self hsmall, String.ofList_toList]

end Text
end ClassModel
