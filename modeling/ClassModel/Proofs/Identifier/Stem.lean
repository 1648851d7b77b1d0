import ClassModel.Identifier.Sanitizer
import ClassModel.Proofs.Text.Split

/-!
# The stem of a name

Cleaning leaves a stem of any name: word characters, at least one, with no low line at either end.
Snake case and upper case keep it one (`Stem.snake`, `Stem.upper`), so what is made of a name is
never empty, and a low line at its start or its end is one that was put there on purpose: before a
digit or after a reserved word.
-/

set_option autoImplicit false

namespace ClassModel
namespace Identifier

variable {c : Char} {cs : List Char}

/-! ## ASCII -/

theorem toNat_lt_of_wordChar (h : isWordChar c = true) : c.toNat < 128 := by
  simp only [isWordChar, isSmallOrDigit, isCapital, Bool.or_eq_true, Bool.and_eq_true,
    decide_eq_true_eq, beq_iff_eq, Char.le_def, UInt32.le_iff_toNat_le] at h
  rcases h with ((h | h) | h) | rfl
  · change 97 ≤ c.toNat ∧ c.toNat ≤ 122 at h
    omega
  · change 48 ≤ c.toNat ∧ c.toNat ≤ 57 at h
    omega
  · change 65 ≤ c.toNat ∧ c.toNat ≤ 90 at h
    omega
  · decide

/-- What holds of the word characters among the first 128 holds of all of them. -/
theorem forall_wordChar {P : Char → Prop}
    (h : ∀ n < 128, isWordChar (Char.ofNat n) = true → P (Char.ofNat n))
    (hc : isWordChar c = true) : P c := by
  have hn := h c.toNat (toNat_lt_of_wordChar hc)
  rw [Char.ofNat_toNat] at hn
  exact hn hc

/-- The only characters of a snake case of word characters. -/
def isSnakeChar (c : Char) : Bool := isSmallOrDigit c || c == '_'

theorem wordChar_of_snakeChar (h : isSnakeChar c = true) : isWordChar c = true := by
  rcases Bool.or_eq_true_iff.mp h with h | h <;> simp [isWordChar, h]

/-- The lower case of a word character. -/
def smallOf (c : Char) : Char := Char.ofNat (Text.lowerRuns.shift c.toNat)

/-- The upper case of a word character. -/
def capitalOf (c : Char) : Char := Char.ofNat (Text.upperRuns.shift c.toNat)

theorem snakeChar_smallOf (h : isWordChar c = true) : isSnakeChar (smallOf c) = true :=
  forall_wordChar (P := fun c => isSnakeChar (smallOf c) = true) (by decide) h

theorem smallOf_eq_low_iff (h : isWordChar c = true) : smallOf c = '_' ↔ c = '_' :=
  forall_wordChar (P := fun c => smallOf c = '_' ↔ c = '_') (by decide) h

theorem wordChar_capitalOf (h : isSnakeChar c = true) : isWordChar (capitalOf c) = true :=
  forall_wordChar (P := fun c => isSnakeChar c = true → isWordChar (capitalOf c) = true)
    (by decide) (wordChar_of_snakeChar h) h

/-- Lower case undoes upper case. -/
theorem smallOf_capitalOf (h : isSnakeChar c = true) : smallOf (capitalOf c) = c :=
  forall_wordChar (P := fun c => isSnakeChar c = true → smallOf (capitalOf c) = c)
    (by decide) (wordChar_of_snakeChar h) h

theorem lowerAfter_eq_map {before : List Char} (h : ∀ c ∈ cs, isWordChar c = true) :
    Text.lowerAfter before cs = cs.map smallOf := by
  induction cs generalizing before with
  | nil => rfl
  | cons c rest ih =>
    obtain ⟨hc, hrest⟩ := List.forall_mem_cons.mp h
    have hlt := toNat_lt_of_wordChar hc
    have hsigma : c ≠ 'Σ' := by
      intro hc'
      subst hc'
      exact absurd hlt (by decide)
    rw [Text.lowerAfter, if_neg hsigma, Text.lowerChar, Text.mapCase, if_pos hlt, ih hrest]
    rfl

theorem upperChars_eq_map (h : ∀ c ∈ cs, isWordChar c = true) :
    Text.upperChars cs = cs.map capitalOf := by
  induction cs with
  | nil => rfl
  | cons c rest ih =>
    obtain ⟨hc, hrest⟩ := List.forall_mem_cons.mp h
    rw [List.map_cons, ← ih hrest, Text.upperChars, List.flatMap_cons, Text.upperChar, Text.mapCase,
      if_pos (toNat_lt_of_wordChar hc)]
    rfl

/-! ## Snake case -/

theorem mem_splitHumps (h : c ∈ splitHumps cs) : c ∈ cs ∨ c = '_' := by
  fun_induction splitHumps cs with
  | case1 => exact Or.inl h
  | case2 d => exact Or.inl h
  | case3 d e rest _ ih =>
    rcases List.mem_cons.mp h with rfl | h
    · exact Or.inl List.mem_cons_self
    · rcases List.mem_cons.mp h with rfl | h
      · exact Or.inr rfl
      · exact (ih h).imp_left (List.mem_cons_of_mem d)
  | case4 d e rest _ ih =>
    rcases List.mem_cons.mp h with rfl | h
    · exact Or.inl List.mem_cons_self
    · exact (ih h).imp_left (List.mem_cons_of_mem d)

theorem subset_splitHumps (cs : List Char) : cs ⊆ splitHumps cs := by
  fun_induction splitHumps cs with
  | case1 => exact List.Subset.refl _
  | case2 d => exact List.Subset.refl _
  | case3 d e rest _ ih =>
    exact List.cons_subset_cons d (List.Subset.trans ih (List.subset_cons_self _ _))
  | case4 d e rest _ ih => exact List.cons_subset_cons d ih

theorem collapse_subset (cs : List Char) : collapse cs ⊆ cs := by
  fun_induction collapse cs with
  | case1 => exact List.Subset.refl _
  | case2 d => exact List.Subset.refl _
  | case3 d e rest _ ih => exact List.Subset.trans ih (List.subset_cons_self _ _)
  | case4 d e rest _ ih => exact List.cons_subset_cons d ih

theorem mem_collapse_of_ne (hc : c ∈ cs) (hne : c ≠ '_') : c ∈ collapse cs := by
  fun_induction collapse cs with
  | case1 => exact hc
  | case2 d => exact hc
  | case3 d e rest hlow ih =>
    rcases List.mem_cons.mp hc with rfl | hc
    · exact absurd hlow.1 hne
    · exact ih hc
  | case4 d e rest _ ih =>
    rcases List.mem_cons.mp hc with rfl | hc
    · exact List.mem_cons_self
    · exact List.mem_cons_of_mem _ (ih hc)

/-- A stem: word characters, at least one, with no low line at either end. -/
structure Stem (cs : List Char) : Prop where
  word : ∀ c ∈ cs, isWordChar c = true
  nonempty : cs ≠ []
  bare : Text.Bare '_' cs

namespace Stem

theorem exists_ne_low (h : Stem cs) : ∃ c ∈ cs, c ≠ '_' := by
  obtain ⟨_, hne, hhead, _⟩ := h
  cases cs with
  | nil => exact absurd rfl hne
  | cons c rest => exact ⟨c, List.mem_cons_self, by simpa using hhead⟩

theorem unhyphen_eq (h : ∀ c ∈ cs, isWordChar c = true) : unhyphen cs = cs := by
  refine (List.map_congr_left ?_).trans (List.map_id cs)
  intro c hc
  have hhyphen : c ≠ '-' := by
    intro hc'
    have hword := h c hc
    rw [hc'] at hword
    exact absurd hword (by decide)
  rw [if_neg hhyphen, id]

/-- **The snake case of a stem is a stem** of small letters, digits and low lines. -/
theorem snake (h : Stem cs) :
    Stem (snakeChars cs) ∧ ∀ c ∈ snakeChars cs, isSnakeChar c = true := by
  have hhumps : ∀ c ∈ splitHumps cs, isWordChar c = true := by
    intro c hc
    rcases mem_splitHumps hc with hc | rfl
    · exact h.word c hc
    · decide
  have hsnake : snakeChars cs = Text.strip '_' (collapse ((splitHumps cs).map smallOf)) := by
    rw [snakeChars, snakeWith, unhyphen_eq h.word, Text.lowerChars, lowerAfter_eq_map hhumps]
  have hchars : ∀ c ∈ snakeChars cs, isSnakeChar c = true := by
    intro c hc
    rw [hsnake] at hc
    obtain ⟨d, hd, rfl⟩ := List.mem_map.mp (collapse_subset _ (Text.mem_of_mem_strip hc))
    exact snakeChar_smallOf (hhumps d hd)
  refine ⟨⟨fun c hc => wordChar_of_snakeChar (hchars c hc), ?_, ?_⟩, hchars⟩
  · -- A letter or digit of the stem is still there in lower case.
    obtain ⟨c, hc, hne⟩ := h.exists_ne_low
    have hsmall : smallOf c ≠ '_' := fun hlow => hne ((smallOf_eq_low_iff (h.word c hc)).mp hlow)
    have hmem : smallOf c ∈ (splitHumps cs).map smallOf :=
      List.mem_map_of_mem (subset_splitHumps cs hc)
    rw [hsnake]
    exact List.ne_nil_of_mem (Text.mem_strip_of_ne (mem_collapse_of_ne hmem hsmall) hsmall)
  · rw [hsnake]
    exact Text.bare_strip _ _

/-- The upper case of a stem in snake case is a stem. -/
theorem upper (h : Stem cs) (hsnake : ∀ c ∈ cs, isSnakeChar c = true) :
    Stem (Text.upperChars cs) := by
  have hwords : ∀ c ∈ cs, isWordChar c = true := fun c hc => wordChar_of_snakeChar (hsnake c hc)
  have hlow : ∀ c ∈ cs, capitalOf c = '_' → c = '_' := by
    intro c hc hcapital
    rw [← smallOf_capitalOf (hsnake c hc), hcapital]
    decide
  obtain ⟨_, hne, hhead, hlast⟩ := h
  rw [upperChars_eq_map hwords]
  refine ⟨?_, by simpa using hne, ?_, ?_⟩
  · intro c hc
    obtain ⟨d, hd, rfl⟩ := List.mem_map.mp hc
    exact wordChar_capitalOf (hsnake d hd)
  · rw [List.head?_map]
    intro hcapital
    obtain ⟨c, hc, heq⟩ := Option.map_eq_some_iff.mp hcapital
    rw [hc] at hhead
    exact hhead (congrArg some (hlow c (List.mem_of_mem_head? hc) heq))
  · rw [List.getLast?_map]
    intro hcapital
    obtain ⟨c, hc, heq⟩ := Option.map_eq_some_iff.mp hcapital
    rw [hc] at hlast
    exact hlast (congrArg some (hlow c (List.mem_of_getLast? hc) heq))

end Stem

/-- Two texts of snake characters with one upper case are the same. -/
theorem upperChars_inj {ds : List Char} (hcs : ∀ c ∈ cs, isSnakeChar c = true)
    (hds : ∀ d ∈ ds, isSnakeChar d = true) (h : Text.upperChars cs = Text.upperChars ds) :
    cs = ds := by
  have hback : ∀ es : List Char, (∀ e ∈ es, isSnakeChar e = true) →
      (Text.upperChars es).map smallOf = es := by
    intro es hes
    rw [upperChars_eq_map fun e he => wordChar_of_snakeChar (hes e he), List.map_map]
    refine (List.map_congr_left ?_).trans (List.map_id es)
    intro e he
    exact smallOf_capitalOf (hes e he)
  rw [← hback cs hcs, h, hback ds hds]

/-! ## Cleaned names -/

/-- **What cleaning leaves is a stem.** -/
theorem stem_clean (name : String) : Stem (clean name).toList := by
  rw [clean]
  split
  · have hword : "field".toList.all isWordChar = true := by decide
    exact ⟨List.all_eq_true.mp hword, by decide, by unfold Text.Bare; decide⟩
  · next h =>
    rw [String.toList_ofList]
    refine ⟨?_, by simpa using h, Text.bare_strip _ _⟩
    intro c hc
    obtain ⟨d, _, rfl⟩ := List.mem_map.mp (Text.mem_of_mem_strip hc)
    split
    · next hd => exact hd
    · decide

end Identifier
end ClassModel
