import ClassModel.Proofs.Identifier.Stem
import ClassModel.Proofs.Text.LowerCase
import Mathlib.Data.List.Chain

/-!
# Snake case is reached once

Snake case takes four steps: humps are split, the text is put in lower case, runs of low lines
become one, and low lines at the ends go. None of them undoes an earlier one. A lower case has no
hump left to split, and taking low lines away leaves none beside another. So what comes out has a
form of its own (`SnakeForm`), and each of the steps leaves a text of that form alone
(`snakeWith_snakeWith`).

Of putting in lower case only three things are used (`Lowers`); the lower case of texts has them.
-/

set_option autoImplicit false

namespace ClassModel
namespace Identifier

variable {c : Char} {cs : List Char} {lower : List Char → List Char}

/-! ## The steps on a text that they leave alone -/

/-- No low line stands right after another one. -/
def Single (cs : List Char) : Prop := cs.IsChain fun c d => ¬ (c = '_' ∧ d = '_')

theorem splitHumps_eq_self (h : ∀ c ∈ cs, isCapital c = false) : splitHumps cs = cs := by
  fun_induction splitHumps cs with
  | case1 => rfl
  | case2 => rfl
  | case3 c d rest hump _ =>
    have hd := h d (List.mem_cons_of_mem c List.mem_cons_self)
    rw [hd, Bool.and_false] at hump
    cases hump
  | case4 c d rest _ ih => rw [ih fun e he => h e (List.mem_cons_of_mem c he)]

theorem collapse_eq_self (h : Single cs) : collapse cs = cs := by
  fun_induction collapse cs with
  | case1 => rfl
  | case2 => rfl
  | case3 c d rest hlow _ => exact absurd hlow (List.isChain_cons_cons.mp h).1
  | case4 c d rest _ ih => rw [ih (List.isChain_cons_cons.mp h).2]

theorem head?_collapse (cs : List Char) : (collapse cs).head? = cs.head? := by
  fun_induction collapse cs with
  | case1 => rfl
  | case2 => rfl
  | case3 c d rest hlow ih => rw [ih, List.head?_cons, List.head?_cons, hlow.1, hlow.2]
  | case4 => rfl

theorem single_collapse (cs : List Char) : Single (collapse cs) := by
  fun_induction collapse cs with
  | case1 => exact List.isChain_nil
  | case2 c => exact List.isChain_singleton c
  | case3 c d rest _ ih => exact ih
  | case4 c d rest hnot ih =>
    -- What follows starts as it did before, so `c` meets the same neighbour.
    apply List.isChain_cons.mpr
    refine ⟨?_, ih⟩
    intro e he
    rw [head?_collapse] at he
    cases he
    exact hnot

theorem unhyphen_eq_self (h : '-' ∉ cs) : unhyphen cs = cs := by
  refine (List.map_congr_left ?_).trans (List.map_id cs)
  intro c hc
  rw [if_neg (ne_of_mem_of_not_mem hc h), id]

theorem hyphen_notMem_unhyphen (cs : List Char) : '-' ∉ unhyphen cs := by
  intro h
  obtain ⟨c, _, hc⟩ := List.mem_map.mp h
  split at hc
  · cases hc
  · next hne => exact hne hc

theorem hyphen_notMem_splitHumps (h : '-' ∉ cs) : '-' ∉ splitHumps cs := by
  intro hmem
  rcases mem_splitHumps hmem with hmem | hlow
  · exact h hmem
  · cases hlow

/-! ## Lower case -/

/-- What snake case asks of putting in lower case: a text of characters that it has given stays as
it is, it gives no ASCII capital, and it makes no hyphen. -/
structure Lowers (lower : List Char → List Char) : Prop where
  settled : ∀ cs, (∀ c ∈ cs, ∃ ds, c ∈ lower ds) → lower cs = cs
  small : ∀ cs, ∀ c ∈ lower cs, isCapital c = false
  hyphen : ∀ cs, '-' ∈ lower cs → '-' ∈ cs

theorem isCapital_of_small (h : Text.Small c) : isCapital c = false := by
  by_contra hnot
  have hcapital : isCapital c = true := by simpa using hnot
  have hword : isWordChar c = true := by
    rw [isWordChar, hcapital, Bool.or_true, Bool.true_or]
  exact forall_wordChar (P := fun c => isCapital c = true → ¬ Text.Small c) (by decide)
    hword hcapital h

/-- No run of the lower-case mapping leads to a character up to the low line. -/
theorem low_before_lowerRuns : (Text.lowerRuns.all fun r => Nat.blt 0x5F r.2.2.2) = true := by
  decide +kernel

/-- A character up to the low line is the lower case of itself only. -/
theorem eq_of_mem_lowerChar {d : Char} (hd : d.toNat ≤ 0x5F) (h : d ∈ Text.lowerChar c) :
    c = d := by
  by_cases hc : c.toNat = 0x0130
  · have hexp : Text.lowerChar c = ['i', Char.ofNat 0x0307] := by
      rw [Text.lowerChar, Text.mapCase, hc]
      rfl
    rw [hexp] at h
    rcases List.mem_pair.mp h with rfl | rfl
    · exact absurd hd (by decide)
    · exact absurd hd (by decide)
  · rw [Text.lowerChar_eq_shift hc, List.mem_singleton] at h
    rcases Text.lowerRuns.shift_cases c.toNat with hstay | ⟨r, hr, _, _, _, hshift⟩
    · rw [hstay, Char.ofNat_toNat] at h
      exact h.symm
    · have hafter := List.all_eq_true.mp low_before_lowerRuns r hr
      rw [Nat.blt_eq] at hafter
      have hto := congrArg Char.toNat h
      rw [Text.CaseRuns.toNat_ofNat_shift Text.lowerRuns_leadToChars, hshift] at hto
      omega

theorem hyphen_of_mem_lowerAfter {before : List Char} (h : '-' ∈ Text.lowerAfter before cs) :
    '-' ∈ cs := by
  induction cs generalizing before with
  | nil => cases h
  | cons c rest ih =>
    rw [Text.lowerAfter] at h
    rcases List.mem_append.mp h with h | h
    · split at h
      · rw [List.mem_singleton] at h
        split at h <;> cases h
      · rw [eq_of_mem_lowerChar (by decide) h]
        exact List.mem_cons_self
    · exact List.mem_cons_of_mem c (ih h)

theorem lowers_lowerChars : Lowers Text.lowerChars where
  settled := by
    intro cs h
    apply Text.lowerAfter_eq_self
    intro c hc
    obtain ⟨ds, hds⟩ := h c hc
    exact Text.small_of_mem_lowerAfter hds
  small := by
    intro cs c hc
    exact isCapital_of_small (Text.small_of_mem_lowerAfter hc)
  hyphen := fun cs h => hyphen_of_mem_lowerAfter h

/-! ## Snake case -/

theorem single_snakeWith (lower : List Char → List Char) (cs : List Char) :
    Single (snakeWith lower cs) :=
  List.IsChain.infix (single_collapse _) (Text.isInfix_strip _ _)

theorem mem_lower_of_mem_snakeWith (h : c ∈ snakeWith lower cs) :
    c ∈ lower (splitHumps (unhyphen cs)) :=
  collapse_subset _ (Text.mem_of_mem_strip h)

/-- The text has no hyphen and no ASCII capital, and its low lines stand alone and inside. -/
structure SnakeForm (cs : List Char) : Prop where
  hyphen : '-' ∉ cs
  small : ∀ c ∈ cs, isCapital c = false
  single : Single cs
  bare : Text.Bare '_' cs

theorem snakeForm_snakeWith (hl : Lowers lower) (cs : List Char) :
    SnakeForm (snakeWith lower cs) where
  hyphen := by
    intro h
    have hsplit := hl.hyphen _ (mem_lower_of_mem_snakeWith h)
    exact hyphen_notMem_splitHumps (hyphen_notMem_unhyphen cs) hsplit
  small := fun c hc => hl.small _ c (mem_lower_of_mem_snakeWith hc)
  single := single_snakeWith lower cs
  bare := Text.bare_strip _ _

/-- Each step leaves a text of this form alone. -/
theorem SnakeForm.snakeWith_eq (h : SnakeForm cs) (hlower : lower cs = cs) :
    snakeWith lower cs = cs := by
  rw [snakeWith, unhyphen_eq_self h.hyphen, splitHumps_eq_self h.small, hlower,
    collapse_eq_self h.single, Text.strip_eq_self h.bare]

/-- **Snake case is reached once.** -/
theorem snakeWith_snakeWith (hl : Lowers lower) (cs : List Char) :
    snakeWith lower (snakeWith lower cs) = snakeWith lower cs := by
  have hlower : lower (snakeWith lower cs) = snakeWith lower cs :=
    hl.settled _ fun c hc => ⟨_, mem_lower_of_mem_snakeWith hc⟩
  exact (snakeForm_snakeWith hl cs).snakeWith_eq hlower

theorem snakeChars_toSnake (s : String) : snakeChars (toSnake s).toList = snakeChars s.toList := by
  rw [toSnake, String.toList_ofList]
  exact snakeWith_snakeWith lowers_lowerChars s.toList

theorem toSnake_toSnake (s : String) : toSnake (toSnake s) = toSnake s := by
  rw [toSnake, snakeChars_toSnake, toSnake]

end Identifier
end ClassModel
