import ClassModel.Proofs.Text.PythonLiteral

/-!
# What a Kotlin string literal denotes

A literal between double quotes denotes a list of 16-bit units. A backslash begins an escape, and a
dollar sign begins a template where a name, a name between backticks or a brace follows it; a
literal with a template has no fixed value. All other characters denote themselves, up to the quote
that ends the literal, which must stand on the same line.

No escape is as long as what it denotes. So a text that is put between the quotes as it is comes
back exactly if it needs no escape (`denotes_iff`): it is `Verbatim`.
-/

set_option autoImplicit false

namespace ClassModel
namespace KotlinLiteral

open Text (units)

variable {letter : Char → Bool} {c : Char} {cs rest tail : List Char} {ns ms : List Nat}

/-! ## Reading -/

/-- The mark around a name that is no identifier. -/
def tick : Char := Char.ofNat 96

/-- Does a mark stand on the line? -/
def tickFollows : List Char → Bool
  | [] => false
  | c :: cs => c = tick || (c ≠ '\n' && c ≠ '\r' && tickFollows cs)

/-- May a name start with the character? `letter` knows the letters beyond ASCII. -/
def startsName (letter : Char → Bool) (c : Char) : Bool :=
  c.isAlpha || c = '_' || (decide (0x80 ≤ c.toNat) && letter c)

/-- Does a dollar sign begin a template before these characters? -/
def opensTemplate (letter : Char → Bool) : List Char → Bool
  | [] => false
  | c :: cs =>
    c = '{' || startsName letter c || (c = tick && cs.head? ≠ some tick && tickFollows cs)

/-- The unit that a backslash and a character stand for. -/
def shortEscape? : Char → Option Nat
  | 't' => some 0x09
  | 'b' => some 0x08
  | 'n' => some 0x0A
  | 'r' => some 0x0D
  | '\'' => some 0x27
  | '"' => some 0x22
  | '\\' => some 0x5C
  | '$' => some 0x24
  | _ => none

/-- What stands after a backslash: the units that it denotes, and what is left. -/
def readEscape : List Char → Option (List Nat × List Char)
  | [] => none
  | 'u' :: cs => (PythonLiteral.readHex 4 0 cs).map fun r => ([r.1], r.2)
  | c :: cs => (shortEscape? c).map fun n => ([n], cs)

/-- One character or escape before the closing quote. There is none where a template begins. -/
def readItem (letter : Char → Bool) : List Char → Option (List Nat × List Char)
  | [] => none
  | '\\' :: cs => readEscape cs
  | c :: cs =>
    if (c = '"' ∨ c = '\n' ∨ c = '\r') ∨ (c = '$' ∧ opensTemplate letter cs) then none
    else some (units c, cs)

/-- `Body letter cs ns rest`: after the opening quote, the characters denote the units up to the
closing quote, and `rest` is left. -/
inductive Body (letter : Char → Bool) : List Char → List Nat → List Char → Prop
  | close {rest : List Char} : Body letter ('"' :: rest) [] rest
  | item {cs tail rest : List Char} {ns ms : List Nat} :
      readItem letter cs = some (ns, tail) → Body letter tail ms rest →
      Body letter cs (ns ++ ms) rest

/-- The body of a literal ends at once, or an item comes first. -/
theorem Body.cases_cons (h : Body letter (c :: cs) ns rest) :
    (c = '"' ∧ ns = [] ∧ rest = cs) ∨ ∃ first others tail, ns = first ++ others ∧
      readItem letter (c :: cs) = some (first, tail) ∧ Body letter tail others rest := by
  cases h with
  | close => exact Or.inl ⟨rfl, rfl, rfl⟩
  | item hitem hbody => exact Or.inr ⟨_, _, _, rfl, hitem, hbody⟩

/-- A literal denotes one list of units at most, and ends at one place. -/
theorem Body.unique {rest' : List Char} (h : Body letter cs ns rest)
    (h' : Body letter cs ms rest') : ns = ms ∧ rest = rest' := by
  induction h generalizing ms with
  | close =>
    cases h' with
    | close => exact ⟨rfl, rfl⟩
    | item hitem _ => cases hitem
  | item hitem _ ih =>
    cases h' with
    | close => cases hitem
    | item hitem' hbody =>
      rw [hitem] at hitem'
      cases hitem'
      obtain ⟨rfl, rfl⟩ := ih hbody
      exact ⟨rfl, rfl⟩

/-- After the opening quote, the characters denote the text and nothing else, and `rest` is left. -/
def Denotes (letter : Char → Bool) (cs text rest : List Char) : Prop :=
  ∀ ns left, Body letter cs ns left ↔ ns = text.flatMap units ∧ left = rest

/-! ## How much is read -/

/-- The number of 16-bit units. -/
def width (cs : List Char) : Nat := (cs.flatMap units).length

theorem width_cons (c : Char) (cs : List Char) : width (c :: cs) = (units c).length + width cs := by
  rw [width, List.flatMap_cons, List.length_append]
  rfl

theorem width_append (cs rest : List Char) : width (cs ++ rest) = width cs + width rest := by
  rw [width, List.flatMap_append, List.length_append]
  rfl

theorem units_pos (c : Char) : 0 < (units c).length := by
  rw [units]
  split
  · exact Nat.one_pos
  · exact Nat.two_pos

theorem width_le_of_suffix (h : tail <:+ cs) : width tail ≤ width cs := by
  obtain ⟨front, rfl⟩ := h
  rw [width_append]
  exact Nat.le_add_left _ _

theorem suffix_of_readHex {digits n m : Nat}
    (h : PythonLiteral.readHex digits n cs = some (m, tail)) : tail <:+ cs := by
  induction digits generalizing n cs with
  | zero =>
    cases h
    exact List.suffix_refl _
  | succ digits ih =>
    cases cs with
    | nil => cases h
    | cons c cs =>
      rw [PythonLiteral.readHex_cons] at h
      obtain ⟨v, _, h⟩ := Option.bind_eq_some_iff.mp h
      exact (ih h).trans (List.suffix_cons c cs)

/-- What follows a backslash has at least the units that it denotes. -/
theorem width_of_readEscape (h : readEscape cs = some (ns, tail)) :
    ns.length + width tail ≤ width cs := by
  cases cs with
  | nil => cases h
  | cons c cs =>
    have hunit : ns.length = 1 ∧ tail <:+ cs := by
      rw [readEscape.eq_def] at h
      split at h
      · next heq => cases heq
      · next heq =>
        cases heq
        obtain ⟨⟨m, left⟩, hread, heq⟩ := Option.map_eq_some_iff.mp h
        cases heq
        exact ⟨rfl, suffix_of_readHex hread⟩
      · next heq =>
        cases heq
        obtain ⟨m, _, heq⟩ := Option.map_eq_some_iff.mp h
        cases heq
        exact ⟨rfl, List.suffix_refl _⟩
    have hc := units_pos c
    have htail := width_le_of_suffix hunit.2
    rw [width_cons, hunit.1]
    omega

/-- A character that is no backslash is read as it is, or not at all. -/
theorem readItem_eq_some_iff (hc : c ≠ '\\') : readItem letter (c :: cs) = some (ns, tail) ↔
    (c ≠ '"' ∧ c ≠ '\n' ∧ c ≠ '\r') ∧ (c = '$' → opensTemplate letter cs = false) ∧
      ns = units c ∧ tail = cs := by
  rw [readItem.eq_3 _ _ _ hc, Option.ite_none_left_eq_some, Option.some.injEq, Prod.mk.injEq,
    eq_comm (a := units c), eq_comm (a := cs)]
  simp only [not_or, not_and, Bool.not_eq_true, ne_eq, and_assoc]

/-- A literal has at least the units that it denotes, and its closing quote. -/
theorem Body.width_le (h : Body letter cs ns rest) :
    ns.length + width ('"' :: rest) ≤ width cs := by
  induction h with
  | close => exact Nat.le_of_eq (Nat.zero_add _)
  | @item cs tail rest ns ms hitem hbody ih =>
    have hread : ns.length + width tail ≤ width cs := by
      cases cs with
      | nil => cases hitem
      | cons c cs =>
        rw [width_cons]
        by_cases hc : c = '\\'
        · subst hc
          have hescape := width_of_readEscape hitem
          omega
        · obtain ⟨_, _, rfl, rfl⟩ := (readItem_eq_some_iff hc).mp hitem
          exact Nat.le_refl _
    rw [List.length_append]
    omega

/-! ## Texts that stand for themselves -/

/-- Nothing in the text is read as anything but itself: it has no backslash, no quote and no end of
a line, and what follows a dollar sign makes no template. -/
structure Verbatim (letter : Char → Bool) (cs : List Char) : Prop where
  plain : ∀ c ∈ cs, c ≠ '\\' ∧ c ≠ '"' ∧ c ≠ '\n' ∧ c ≠ '\r'
  dollars : ∀ before after, cs = before ++ '$' :: after → opensTemplate letter after = false

theorem verbatim_nil : Verbatim letter [] := ⟨by simp, by simp⟩

theorem verbatim_cons_iff : Verbatim letter (c :: cs) ↔
    (c ≠ '\\' ∧ c ≠ '"' ∧ c ≠ '\n' ∧ c ≠ '\r') ∧ (c = '$' → opensTemplate letter cs = false) ∧
      Verbatim letter cs := by
  constructor
  · rintro ⟨hplain, hdollars⟩
    obtain ⟨hc, hcs⟩ := List.forall_mem_cons.mp hplain
    refine ⟨hc, ?_, hcs, ?_⟩
    · rintro rfl
      exact hdollars [] cs rfl
    · rintro before after rfl
      exact hdollars (c :: before) after rfl
  · rintro ⟨hc, hdollar, hplain, hdollars⟩
    refine ⟨List.forall_mem_cons.mpr ⟨hc, hplain⟩, ?_⟩
    intro before after h
    cases before with
    | nil =>
      obtain ⟨rfl, rfl⟩ := List.cons.inj h
      exact hdollar rfl
    | cons b before => exact hdollars before after (List.cons.inj h).2

/-- Where no mark follows on the line, a template cannot reach beyond the closing quote. -/
theorem tickFollows_append (hrest : tickFollows rest = false) (cs : List Char) :
    tickFollows (cs ++ '"' :: rest) = tickFollows cs := by
  induction cs with
  | nil =>
    have htick : '"' ≠ tick := by decide
    simp [tickFollows, htick, hrest]
  | cons c cs ih => rw [List.cons_append, tickFollows, tickFollows, ih]

theorem opensTemplate_append (hrest : tickFollows rest = false) (cs : List Char) :
    opensTemplate letter (cs ++ '"' :: rest) = opensTemplate letter cs := by
  cases cs with
  | nil =>
    have htick : '"' ≠ tick := by decide
    simp [opensTemplate, startsName, htick]
  | cons c cs =>
    rw [List.cons_append, opensTemplate, opensTemplate, tickFollows_append hrest]
    cases cs with
    | nil => simp [tickFollows]
    | cons d cs => rfl

theorem body_iff (hrest : tickFollows rest = false) (cs : List Char) :
    Body letter (cs ++ '"' :: rest) (cs.flatMap units) rest ↔ Verbatim letter cs := by
  induction cs with
  | nil => exact iff_of_true .close verbatim_nil
  | cons c cs ih =>
    rw [verbatim_cons_iff, ← ih, ← opensTemplate_append hrest cs, List.flatMap_cons,
      List.cons_append]
    constructor
    · intro h
      rcases h.cases_cons with ⟨_, hnil, _⟩ | ⟨ns, ms, tail, hunits, hitem, hbody⟩
      · have hlen := units_pos c
        rw [(List.append_eq_nil_iff.mp hnil).1] at hlen
        cases hlen
      · by_cases hc : c = '\\'
        · -- An escape is longer than what it denotes, so too little would be left for the others.
          subst hc
          have hescape := width_of_readEscape hitem
          have hwidth := hbody.width_le
          have hlen := congrArg List.length hunits
          rw [width_append] at hescape
          rw [List.length_append, List.length_append] at hlen
          have hone : (units '\\').length = 1 := rfl
          have hcs : width cs = (cs.flatMap units).length := rfl
          omega
        · obtain ⟨hplain, hdollar, rfl, rfl⟩ := (readItem_eq_some_iff hc).mp hitem
          rw [← List.append_cancel_left hunits] at hbody
          exact ⟨⟨hc, hplain⟩, hdollar, hbody⟩
    · rintro ⟨⟨hback, hplain⟩, hdollar, hbody⟩
      exact .item ((readItem_eq_some_iff hback).mpr ⟨hplain, hdollar, rfl, rfl⟩) hbody

/-- **A text between quotes denotes itself exactly if it is verbatim**, where no mark follows on
the line. -/
theorem denotes_iff (hrest : tickFollows rest = false) (cs : List Char) :
    Denotes letter (cs ++ '"' :: rest) cs rest ↔ Verbatim letter cs := by
  rw [← body_iff hrest]
  constructor
  · intro h
    exact (h _ _).mpr ⟨rfl, rfl⟩
  · intro h ns left
    constructor
    · intro h'
      exact h'.unique h
    · rintro ⟨rfl, rfl⟩
      exact h

end KotlinLiteral
end ClassModel
