import ClassModel.Compile.TypeText
import ClassModel.Proofs.Ascending
import Mathlib.Algebra.Order.Field.Basic
import Mathlib.Data.Prod.Lex
import Mathlib.Data.Rat.Cast.Order
import Mathlib.Data.Set.List
import Mathlib.Data.String.Basic
import Mathlib.Order.Compare
import Mathlib.Tactic.Ring

/-!
# The order of keys

Texts are ordered by code point and numbers by value. A number is a whole one, a truth value or a
mantissa with a power of two, so two numbers are compared after scaling them to one power; below,
that is the order of rational numbers (`compareScaled_eq`), with the infinite values around them
(`numericKey`). Not-a-number has no place in this order (`compareNumbers_eq_none`). Sorting
keeps the keys of every list (`mem_of_sortImports`). Keys that are all texts, all numbers that
compare, or all `null` are in the order of a key in a linear order, and come out strictly ascending
(`pairwise_of_sortImports`).
-/

set_option autoImplicit false

namespace ClassModel

namespace Number

variable {a b x y : Int}

/-- The value of `a * 2 ^ x`. -/
def scaledValue (a x : Int) : ℚ := a * 2 ^ x

/-- Two values scaled to the lesser of their powers. -/
theorem scaledValue_eq :
    scaledValue a x = (a * (Nat.pow 2 (x - y).toNat : ℕ) : ℤ) * 2 ^ min x y := by
  have hx : ((x - y).toNat : ℤ) + min x y = x := by omega
  have htwo : (2 : ℚ) ^ x = 2 ^ (x - y).toNat * 2 ^ min x y := by
    rw [← zpow_natCast, ← zpow_add₀ two_ne_zero, hx]
  have hpow : ((Nat.pow 2 (x - y).toNat : ℕ) : ℚ) = 2 ^ (x - y).toNat := Nat.cast_pow 2 _
  rw [scaledValue, htwo, Int.cast_mul, Int.cast_natCast, hpow, mul_assoc]

/-- **Scaled numbers are compared by their values.** -/
theorem compareScaled_eq :
    compareScaled a x b y = compare (scaledValue a x) (scaledValue b y) := by
  have hpos : (0 : ℚ) < 2 ^ min x y := zpow_pos two_pos _
  have hmono : StrictMono fun n : ℤ => (n : ℚ) * 2 ^ min x y := by
    intro m n hmn
    exact mul_lt_mul_of_pos_right (Int.cast_lt.mpr hmn) hpos
  have hcmp := hmono.cmp_map_eq (a * (Nat.pow 2 (x - y).toNat : ℕ))
    (b * (Nat.pow 2 (y - x).toNat : ℕ))
  rw [cmp_eq_compare, cmp_eq_compare] at hcmp
  rw [scaledValue_eq (a := a) (x := x) (y := y), scaledValue_eq (a := b) (x := y) (y := x),
    min_comm y x, hcmp]
  rfl

end Number

namespace Json

variable {a b : Json}

/-- Where a number stands among the finite ones: before them, among them or after them. -/
def numericRank : Json → ℕ
  | .float (.infinite true) => 0
  | .float (.infinite false) => 2
  | _ => 1

/-- The value of a finite number. -/
def numericValue (j : Json) : ℚ :=
  match j.scaled? with
  | some (m, x) => Number.scaledValue m x
  | none => 0

/-- The key that numbers are ordered by. -/
def numericKey (j : Json) : ℕ ×ₗ ℚ := toLex (j.numericRank, j.numericValue)

/-- A number has a value of its own exactly if it is among the finite ones. -/
theorem isSome_scaled?_iff (ha : a.isComparable = true) :
    a.scaled?.isSome = true ↔ a.numericRank = 1 := by
  cases a with
  | float x =>
    cases x with
    | infinite negative => cases negative <;> simp [scaled?, numericRank]
    | nan => cases ha
    | finite _ _ _ => simp [scaled?, numericRank]
  | _ => simp [isComparable, scaled?, numericRank] at *

/-- What is no number, and not-a-number, is not compared. -/
theorem compareNumbers_eq_none (h : ¬ (a.isComparable = true ∧ b.isComparable = true)) :
    compareNumbers a b = none := by
  rw [compareNumbers, if_neg]
  rwa [Bool.and_eq_true]

/-- Numbers by the order of their ranks and, within one rank, by their values. -/
def compareRanked (ranks : Ordering) (a b : Option (Int × Int)) : Ordering :=
  match ranks with
  | .eq =>
    match a, b with
    | some (m, x), some (n, y) => Number.compareScaled m x n y
    | _, _ => .eq
  | o => o

/-- **Numbers are compared by their keys.** -/
theorem compareNumbers_eq (ha : a.isComparable = true) (hb : b.isComparable = true) :
    compareNumbers a b = some (compare a.numericKey b.numericKey) := by
  have hkey : compare a.numericKey b.numericKey =
      (compare a.numericRank b.numericRank).then (compare a.numericValue b.numericValue) := by
    rw [numericKey, numericKey, Prod.Lex.compare_def]
    rfl
  have hcompare : compareNumbers a b =
      some (compareRanked (compare a.numericRank b.numericRank) a.scaled? b.scaled?) := by
    rw [compareNumbers, if_pos (by rw [ha, hb]; rfl)]
    rfl
  refine hcompare.trans (congrArg some ?_)
  rw [hkey]
  cases hr : compare a.numericRank b.numericRank with
  | lt => rfl
  | gt => rfl
  | eq =>
    rw [compare_eq_iff_eq] at hr
    have hboth : a.scaled?.isSome = b.scaled?.isSome := by
      rw [Bool.eq_iff_iff, isSome_scaled?_iff ha, isSome_scaled?_iff hb, hr]
    -- Numbers of one rank are both finite, or they are alike.
    cases hsa : a.scaled? with
    | none =>
      have hsb : b.scaled? = none := by
        rw [← Option.not_isSome_iff_eq_none, ← hboth, hsa]
        simp
      simp [compareRanked, numericValue, hsa, hsb]
    | some p =>
      obtain ⟨q, hsb⟩ : ∃ q, b.scaled? = some q := by
        rw [← Option.isSome_iff_exists, ← hboth, hsa]
        rfl
      simp only [compareRanked, numericValue, hsa, hsb, Number.compareScaled_eq]
      rfl

theorem compareNumbers_eq_some_eq_iff : compareNumbers a b = some .eq ↔
    a.isComparable = true ∧ b.isComparable = true ∧ a.numericKey = b.numericKey := by
  by_cases h : a.isComparable = true ∧ b.isComparable = true
  · rw [compareNumbers_eq h.1 h.2, Option.some_inj, compare_eq_iff_eq]
    simp [h]
  · rw [compareNumbers_eq_none h]
    constructor
    · exact fun h => nomatch h
    · exact fun h' => absurd ⟨h'.1, h'.2.1⟩ h

/-- Two values are one key if they are the same value, or two numbers with one value. -/
theorem sameKey_iff : a.sameKey b = true ↔ (a = b ∧ a.isKey = true) ∨
    (a.isComparable = true ∧ b.isComparable = true ∧ a.numericKey = b.numericKey) := by
  rw [sameKey.eq_def]
  split
  · simp [isKey]
  · simp [isKey, isComparable]
  · simp [isKey]
  · next hnull htext hnan =>
    rw [beq_iff_eq, compareNumbers_eq_some_eq_iff, iff_or_self]
    -- The same key, which is none of the values before: a number that compares.
    rintro ⟨rfl, hkey⟩
    have hcompares : a.isComparable = true := by
      cases a with
      | null => exact absurd rfl (hnull rfl)
      | str t => exact absurd rfl (htext t t rfl)
      | float x =>
        cases x with
        | nan => exact absurd rfl (hnan rfl)
        | _ => rfl
      | arr _ | obj _ => cases hkey
      | _ => rfl
    exact ⟨hcompares, hcompares, rfl⟩

theorem sameKey_self (h : a.isKey = true) : a.sameKey a = true :=
  sameKey_iff.mpr (Or.inl ⟨rfl, h⟩)

theorem sameKey_trans {c : Json} (hab : a.sameKey b = true) (hbc : b.sameKey c = true) :
    a.sameKey c = true := by
  rw [sameKey_iff] at *
  rcases hab with ⟨rfl, _⟩ | ⟨ha, hb, hab⟩
  · exact hbc
  · rcases hbc with ⟨rfl, _⟩ | ⟨_, hc, hbc⟩
    · exact Or.inr ⟨ha, hb, hab⟩
    · exact Or.inr ⟨ha, hc, hab.trans hbc⟩

end Json

namespace Compiler

variable {a b : Json} {qs sorted : List Json}

/-- A key comes before another if both are texts or both are numbers, in their order. -/
theorem keyBefore_iff : keyBefore a b = true ↔ (∃ s t, a = .str s ∧ b = .str t ∧ s < t) ∨
    (a.isComparable = true ∧ b.isComparable = true ∧ a.numericKey < b.numericKey) := by
  rw [keyBefore.eq_def]
  split
  · simp [textBefore, Json.isComparable]
  · next htext =>
    have hnot : ¬ ∃ s t, a = .str s ∧ b = .str t ∧ s < t := by
      rintro ⟨s, t, rfl, rfl, _⟩
      exact htext s t rfl rfl
    rw [or_iff_right hnot, beq_iff_eq]
    by_cases h : a.isComparable = true ∧ b.isComparable = true
    · rw [Json.compareNumbers_eq h.1 h.2, Option.some_inj, compare_lt_iff_lt]
      simp [h]
    · rw [Json.compareNumbers_eq_none h]
      constructor
      · intro hnone
        cases hnone
      · exact fun h' => absurd ⟨h'.1, h'.2.1⟩ h

theorem byKey_texts (h : ∀ a ∈ qs, ∃ t, a = .str t) :
    ByKey keyBefore Json.sameKey (fun q => q.text?.getD "") qs := by
  constructor
  · intro a ha b hb
    obtain ⟨t, rfl⟩ := h a ha
    obtain ⟨u, rfl⟩ := h b hb
    simp [keyBefore, textBefore, Json.text?]
  · intro a ha b hb hab
    obtain ⟨t, rfl⟩ := h a ha
    obtain ⟨u, rfl⟩ := h b hb
    simpa [Json.sameKey, Json.text?] using hab

theorem byKey_numbers (h : ∀ a ∈ qs, a.isComparable = true) :
    ByKey keyBefore Json.sameKey Json.numericKey qs := by
  constructor
  · intro a ha b hb
    rw [keyBefore_iff]
    have hnot : ¬ ∃ s t, a = .str s ∧ b = .str t ∧ s < t := by
      rintro ⟨s, t, rfl, _⟩
      cases h _ ha
    rw [or_iff_right hnot]
    simp [h a ha, h b hb]
  · intro a ha b hb hab
    exact Json.sameKey_iff.mpr (Or.inr ⟨h a ha, h b hb, hab⟩)

theorem byKey_nulls (h : ∀ a ∈ qs, a = .null) :
    ByKey keyBefore Json.sameKey (fun _ => ()) qs := by
  constructor
  · intro a ha b hb
    rw [h a ha, h b hb]
    simp [keyBefore_iff, Json.isComparable]
  · intro a ha b hb _
    rw [h a ha, h b hb]
    rfl

/-- Lists that can be sorted hold keys, of one kind. -/
theorem kinds_of_sortImports (h : sortImports qs = .ok sorted) :
    sorted = ascending keyBefore Json.sameKey qs ∧
      ((∀ q ∈ qs, ∃ t, q = .str t) ∨ (∀ q ∈ qs, q.isNumber = true) ∨ ∀ q ∈ qs, q = .null) := by
  rw [sortImports] at h
  split at h
  · next hall =>
    cases h
    refine ⟨rfl, ?_⟩
    simp only [Bool.or_eq_true, List.all_eq_true] at hall
    rcases hall with (htext | hnumber) | hnull
    · refine Or.inl fun q hq => ?_
      have ht := htext q hq
      cases q with
      | str t => exact ⟨t, rfl⟩
      | _ => cases ht
    · exact Or.inr (Or.inl hnumber)
    · refine Or.inr (Or.inr fun q hq => ?_)
      rcases Json.sameKey_iff.mp (hnull q hq) with ⟨rfl, _⟩ | ⟨_, hnone, _⟩
      · rfl
      · cases hnone
  · cases h

/-- **Sorted imports hold the keys of the list and no others.** -/
theorem mem_of_sortImports (h : sortImports qs = .ok sorted) :
    sorted ⊆ qs ∧ ∀ q ∈ qs, ∃ p ∈ sorted, p.sameKey q = true := by
  obtain ⟨rfl, hkinds⟩ := kinds_of_sortImports h
  refine ⟨fun _ => mem_of_mem_ascending, fun q hq => exists_same_of_mem (fun p hp => ?_) hq⟩
  refine Json.sameKey_self ?_
  rcases hkinds with htext | hnumber | hnull
  · obtain ⟨t, rfl⟩ := htext p hp
    rfl
  · have hn := hnumber p hp
    cases p <;> first | rfl | cases hn
  · rw [hnull p hp]
    rfl

theorem sameKey_eq_false_of_keyBefore (h : keyBefore a b = true) : a.sameKey b = false := by
  rw [Bool.eq_false_iff]
  intro hsame
  rcases keyBefore_iff.mp h with ⟨s, t, rfl, rfl, hlt⟩ | ⟨_, _, hlt⟩
  · rcases Json.sameKey_iff.mp hsame with ⟨heq, _⟩ | ⟨hnone, _⟩
    · cases heq
      exact lt_irrefl _ hlt
    · cases hnone
  · rcases Json.sameKey_iff.mp hsame with ⟨rfl, _⟩ | ⟨_, _, heq⟩
    · exact lt_irrefl _ hlt
    · exact hlt.ne heq

theorem pairwise_of_byKey {κ : Type} [LinearOrder κ] {key : Json → κ}
    (h : ByKey keyBefore Json.sameKey key qs) :
    (ascending keyBefore Json.sameKey qs).Pairwise
      fun a b => keyBefore a b = true ∧ a.sameKey b = false := by
  refine (pairwise_ascending h).imp_of_mem ?_
  intro a b ha hb hab
  have hbefore : keyBefore a b = true :=
    (h.before_iff a (mem_of_mem_ascending ha) b (mem_of_mem_ascending hb)).mpr hab
  exact ⟨hbefore, sameKey_eq_false_of_keyBefore hbefore⟩

/-- **Sorted imports are strictly ascending**, so no two of them are the same key, unless one is
not-a-number. -/
theorem pairwise_of_sortImports (h : sortImports qs = .ok sorted) (hn : .float .nan ∉ sorted) :
    sorted.Pairwise fun a b => keyBefore a b = true ∧ a.sameKey b = false := by
  have hnan : .float .nan ∉ qs := by
    intro hmem
    obtain ⟨p, hp, hsame⟩ := (mem_of_sortImports h).2 _ hmem
    rcases Json.sameKey_iff.mp hsame with ⟨rfl, _⟩ | ⟨_, hnone, _⟩
    · exact hn hp
    · cases hnone
  obtain ⟨rfl, htext | hnumber | hnull⟩ := kinds_of_sortImports h
  · exact pairwise_of_byKey (byKey_texts htext)
  · refine pairwise_of_byKey (byKey_numbers fun a ha => ?_)
    cases a with
    | float x =>
      cases x with
      | nan => exact absurd ha hnan
      | _ => rfl
    | bool _ | int _ => rfl
    | _ => cases hnumber _ ha
  · exact pairwise_of_byKey (byKey_nulls hnull)

/-- Keys that are texts, in ascending order, are texts in ascending order. -/
theorem exists_texts_of_pairwise (ht : ∀ q ∈ qs, ∃ t, q = .str t)
    (hp : qs.Pairwise fun a b => keyBefore a b = true ∧ a.sameKey b = false) :
    ∃ texts : List String, qs = texts.map .str ∧ texts.Pairwise (· < ·) := by
  obtain ⟨texts, rfl⟩ : qs ∈ Set.range (List.map Json.str) := by
    rw [Set.range_list_map]
    intro q hq
    obtain ⟨t, rfl⟩ := ht q hq
    exact ⟨t, rfl⟩
  rw [List.pairwise_map] at hp
  exact ⟨texts, rfl, hp.imp fun hab => of_decide_eq_true hab.1⟩

end Compiler
end ClassModel
