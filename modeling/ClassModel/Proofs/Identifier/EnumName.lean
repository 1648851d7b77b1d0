import ClassModel.Naming
import ClassModel.Proofs.Identifier.SnakeCase
import ClassModel.Proofs.Text.IdentifierCase

/-!
# When the name of an enumeration is an identifier

An enumeration is named after its field, and nothing cleans the name of a field for that: what its
case does not change is in the name of the enumeration. So the name is an identifier exactly if the
field's own name has what it takes (`EnumStyle.suits`). As `capitalized` all of its characters stay,
and only the first one may change its class. In Pascal case hyphens and low lines go, and the first
of the other characters is the one that has to start an identifier.
-/

set_option autoImplicit false

namespace ClassModel

open Text (isIdentifierContinue startsInUpper isIdentifierChars)

namespace Identifier

variable {c : Char} {cs ds : List Char}

/-! ## What goes on an identifier -/

/-- May an identifier go on with the characters? -/
def goesOn (cs : List Char) : Bool := cs.all isIdentifierContinue

theorem goesOn_append (cs ds : List Char) : goesOn (cs ++ ds) = (goesOn cs && goesOn ds) :=
  List.all_append

/-- Low lines go on an identifier, so they may come and go. -/
theorem goesOn_congr (hcs : ∀ c ∈ cs, c ≠ '_' → c ∈ ds) (hds : ∀ c ∈ ds, c ≠ '_' → c ∈ cs) :
    goesOn cs = goesOn ds := by
  have hlow : isIdentifierContinue '_' = true := by decide
  have hsub : ∀ {as bs : List Char}, (∀ c ∈ as, c ≠ '_' → c ∈ bs) → goesOn bs = true →
      goesOn as = true := by
    intro as bs hsub hbs
    apply List.all_eq_true.mpr
    intro c hc
    by_cases hc' : c = '_'
    · rw [hc', hlow]
    · exact List.all_eq_true.mp hbs c (hsub c hc hc')
  rw [Bool.eq_iff_iff]
  exact ⟨hsub hds, hsub hcs⟩

theorem goesOn_splitHumps (cs : List Char) : goesOn (splitHumps cs) = goesOn cs := by
  apply goesOn_congr
  · intro c hc hne
    exact (mem_splitHumps hc).resolve_right hne
  · intro c hc _
    exact subset_splitHumps cs hc

theorem goesOn_collapse (cs : List Char) : goesOn (collapse cs) = goesOn cs :=
  goesOn_congr (fun _ hc _ => collapse_subset cs hc) fun _ hc hne => mem_collapse_of_ne hc hne

theorem goesOn_strip (cs : List Char) : goesOn (Text.strip '_' cs) = goesOn cs :=
  goesOn_congr (fun _ hc _ => Text.mem_of_mem_strip hc) fun _ hc hne => Text.mem_strip_of_ne hc hne

theorem goesOn_lowerAfter (before cs : List Char) :
    goesOn (Text.lowerAfter before cs) = goesOn cs := by
  induction cs generalizing before with
  | nil => rfl
  | cons c rest ih =>
    rw [Text.lowerAfter, goesOn_append, ih]
    congr 1
    split
    · next hsigma =>
      subst hsigma
      split <;> decide
    · exact Text.all_continue_lowerChar c

theorem goesOn_unhyphen (cs : List Char) :
    goesOn (unhyphen cs) = cs.all fun c => c == '-' || isIdentifierContinue c := by
  rw [goesOn, unhyphen, List.all_map]
  apply List.all_congr rfl
  intro c
  by_cases hc : c = '-'
  · subst hc
    decide
  · simp [hc]

theorem goesOn_snakeChars (cs : List Char) :
    goesOn (snakeChars cs) = cs.all fun c => c == '-' || isIdentifierContinue c := by
  rw [snakeChars, snakeWith, goesOn_strip, goesOn_collapse, Text.lowerChars, goesOn_lowerAfter,
    goesOn_splitHumps, goesOn_unhyphen]

theorem goesOn_capitalizeChars (cs : List Char) :
    goesOn (Text.capitalizeChars cs) = goesOn cs := by
  cases cs with
  | nil => rfl
  | cons c rest =>
    rw [Text.capitalizeChars, goesOn_append, goesOn_lowerAfter]
    congr 1
    exact Text.all_continue_titleChar c

theorem goesOn_flatMap {parts : List (List Char)} :
    goesOn (parts.flatMap Text.capitalizeChars) = parts.all goesOn := by
  induction parts with
  | nil => rfl
  | cons part parts ih =>
    rw [List.flatMap_cons, goesOn_append, goesOn_capitalizeChars, List.all_cons, ih]

theorem all_goesOn_splitAt (cs : List Char) : (Text.splitAt '_' cs).all goesOn = goesOn cs := by
  induction cs with
  | nil => rfl
  | cons c rest ih =>
    rw [Text.splitAt]
    split
    · next hc =>
      subst hc
      rw [List.all_cons, ih]
      rfl
    · split
      · next hnil => exact absurd hnil (Text.splitAt_ne_nil '_' rest)
      · next part parts hsplit =>
        rw [hsplit, List.all_cons] at ih
        rw [List.all_cons, goesOn, List.all_cons, Bool.and_assoc]
        exact congrArg _ ih

/-! ## What starts the words -/

/-- The first character of the text that is no low line. -/
def first? (cs : List Char) : Option Char := cs.find? fun c => c ≠ '_'

theorem first?_cons_low (cs : List Char) : first? ('_' :: cs) = first? cs :=
  List.find?_cons_of_neg (by decide)

theorem first?_cons (h : c ≠ '_') (cs : List Char) : first? (c :: cs) = some c :=
  List.find?_cons_of_pos (by simpa using h)

theorem first?_unhyphen (cs : List Char) :
    first? (unhyphen cs) = cs.find? fun c => c ≠ '-' ∧ c ≠ '_' := by
  induction cs with
  | nil => rfl
  | cons c rest ih =>
    rw [unhyphen, List.map_cons]
    by_cases hhyphen : c = '-'
    · rw [if_pos hhyphen, first?_cons_low, List.find?_cons_of_neg (by simp [hhyphen])]
      exact ih
    · rw [if_neg hhyphen]
      by_cases hlow : c = '_'
      · rw [hlow, first?_cons_low, List.find?_cons_of_neg (by simp)]
        exact ih
      · rw [first?_cons hlow, List.find?_cons_of_pos (by simp [hhyphen, hlow])]

theorem first?_splitHumps (cs : List Char) : first? (splitHumps cs) = first? cs := by
  fun_induction splitHumps cs with
  | case1 => rfl
  | case2 => rfl
  | case3 c d rest hump _ =>
    have hc : c ≠ '_' := by
      rintro rfl
      rw [Bool.and_eq_true] at hump
      exact absurd hump.1 (by decide)
    rw [first?_cons hc, first?_cons hc]
  | case4 c d rest _ ih =>
    by_cases hc : c = '_'
    · rw [hc, first?_cons_low, first?_cons_low, ih]
    · rw [first?_cons hc, first?_cons hc]

theorem first?_collapse (cs : List Char) : first? (collapse cs) = first? cs := by
  fun_induction collapse cs with
  | case1 => rfl
  | case2 => rfl
  | case3 c d rest hlow ih =>
    rw [ih, hlow.1, hlow.2, first?_cons_low, first?_cons_low, first?_cons_low]
  | case4 c d rest _ ih =>
    by_cases hc : c = '_'
    · rw [hc, first?_cons_low, first?_cons_low, ih]
    · rw [first?_cons hc, first?_cons hc]

/-- The lower case of a character starts with one that starts an identifier in upper case exactly
if the character does. -/
theorem exists_lowerChar_cons (c : Char) :
    ∃ d ds, Text.lowerChar c = d :: ds ∧ startsInUpper d = startsInUpper c := by
  by_cases hc : c.toNat = 0x0130
  · have hdot : c = Char.ofNat 0x0130 := by
      rw [← hc, Char.ofNat_toNat]
    subst hdot
    exact ⟨'i', [Char.ofNat 0x0307], rfl, by decide⟩
  · exact ⟨_, [], Text.lowerChar_eq_shift hc, Text.startsInUpper_shift c⟩

/-- Lower case keeps what the first character can start. -/
theorem map_first?_lowerAfter (before cs : List Char) :
    (first? (Text.lowerAfter before cs)).map startsInUpper = (first? cs).map startsInUpper := by
  induction cs generalizing before with
  | nil => rfl
  | cons c rest ih =>
    rw [Text.lowerAfter]
    by_cases hsigma : c = 'Σ'
    · subst hsigma
      rw [if_pos rfl, List.singleton_append]
      split
      · rw [first?_cons (by decide), first?_cons (by decide)]
        decide
      · rw [first?_cons (by decide), first?_cons (by decide)]
        decide
    · rw [if_neg hsigma]
      by_cases hc : c = '_'
      · subst hc
        have hlow : Text.lowerChar '_' = ['_'] := by decide
        rw [hlow, List.singleton_append, first?_cons_low, first?_cons_low, ih]
      · obtain ⟨d, ds, hlower, hd⟩ := exists_lowerChar_cons c
        have hne : d ≠ '_' := by
          rintro rfl
          exact hc (eq_of_mem_lowerChar (by decide) (hlower ▸ List.mem_cons_self))
        rw [hlower, List.cons_append, first?_cons hne, first?_cons hc, Option.map_some,
          Option.map_some, hd]

/-- The first character of a snake case can start what the first character of the name can that is
no separator. -/
theorem map_head?_snakeChars (cs : List Char) :
    (snakeChars cs).head?.map startsInUpper =
      (cs.find? fun c => c ≠ '-' ∧ c ≠ '_').map startsInUpper := by
  rw [snakeChars, snakeWith, Text.head?_strip]
  show (first? (collapse (Text.lowerChars (splitHumps (unhyphen cs))))).map startsInUpper = _
  rw [first?_collapse, Text.lowerChars, map_first?_lowerAfter, first?_splitHumps,
    first?_unhyphen]

/-! ## The names of enumerations -/

/-- Does the name make an identifier if its first character is put in upper case? -/
def capitalizes : List Char → Bool
  | [] => false
  | c :: rest => startsInUpper c && goesOn rest

/-- Does the name make an identifier in Pascal case? A name of separators only stays as it is. -/
def pascalizes (cs : List Char) : Bool :=
  match cs.find? fun c => c ≠ '-' ∧ c ≠ '_' with
  | some c => startsInUpper c && cs.all fun d => d == '-' || isIdentifierContinue d
  | none => capitalizes cs

theorem isIdentifier_capitalizeFirst (name : String) :
    Text.isIdentifier (capitalizeFirst name) = capitalizes name.toList := by
  rw [Text.isIdentifier_eq, capitalizeFirst]
  cases name.toList with
  | nil => rfl
  | cons c rest =>
    dsimp only
    rw [String.toList_ofList, Text.isIdentifierChars_append (Text.upperChar_ne_nil c),
      Text.isIdentifierChars_upperChar]
    rfl

/-- The words of a text that starts with no low line make an identifier exactly if its first
character starts one and all of its characters go on one. -/
theorem isIdentifierChars_words (hc : c ≠ '_') (cs : List Char) :
    isIdentifierChars ((Text.splitAt '_' (c :: cs)).flatMap Text.capitalizeChars) =
      (startsInUpper c && goesOn (c :: cs)) := by
  have hall := all_goesOn_splitAt (c :: cs)
  rw [Text.splitAt, if_neg hc] at hall ⊢
  cases hsplit : Text.splitAt '_' cs with
  | nil => exact absurd hsplit (Text.splitAt_ne_nil '_' cs)
  | cons part parts =>
    simp only [hsplit] at hall ⊢
    rw [← hall, List.all_cons, List.flatMap_cons, Text.capitalizeChars, List.append_assoc,
      Text.isIdentifierChars_append (Text.titleChar_ne_nil c), Text.isIdentifierChars_titleChar]
    cases hstart : startsInUpper c with
    | false => rfl
    | true =>
      have hcontinue := Text.isIdentifierContinue_of_startsInUpper hstart
      have htail : goesOn (Text.lowerAfter [c] part ++ parts.flatMap Text.capitalizeChars) =
          (goesOn part && parts.all goesOn) := by
        rw [goesOn_append, goesOn_lowerAfter, goesOn_flatMap]
      rw [Bool.true_and, Bool.true_and, goesOn, List.all_cons, hcontinue, Bool.true_and]
      exact htail

/-- The Pascal case of a name is empty if the name has separators only; otherwise it is an
identifier as the name decides. -/
theorem isIdentifier_toPascal (name : String) :
    (toPascal name = "" ∧ (name.toList.find? fun c => c ≠ '-' ∧ c ≠ '_') = none) ∨
      (toPascal name ≠ "" ∧ Text.isIdentifier (toPascal name) = pascalizes name.toList) := by
  have hhead := map_head?_snakeChars name.toList
  have hbare : (snakeChars name.toList).head? ≠ some '_' := (Text.bare_strip _ _).1
  have hgoes := goesOn_snakeChars name.toList
  have hpascal : (toPascal name).toList =
      (Text.splitAt '_' (snakeChars name.toList)).flatMap Text.capitalizeChars := by
    rw [toPascal, String.toList_ofList, wordsOf]
  cases hsnake : snakeChars name.toList with
  | nil =>
    left
    rw [hsnake] at hhead hpascal
    exact ⟨String.toList_eq_nil_iff.mp hpascal, Option.map_eq_none_iff.mp hhead.symm⟩
  | cons d rest =>
    rw [hsnake] at hhead hbare hgoes hpascal
    have hd : d ≠ '_' := fun h => hbare (by rw [h]; rfl)
    obtain ⟨c, hc, hstart⟩ := Option.map_eq_some_iff.mp hhead.symm
    rw [Text.isIdentifier_eq, hpascal, isIdentifierChars_words hd, hgoes, pascalizes, hc, ← hstart]
    refine Or.inr ⟨?_, rfl⟩
    intro hempty
    rw [hempty, Text.splitAt, if_neg hd] at hpascal
    split at hpascal
    · simp [Text.capitalizeChars, Text.titleChar_ne_nil] at hpascal
    · simp [Text.capitalizeChars, Text.titleChar_ne_nil] at hpascal

end Identifier

/-- Is the enumeration of a field with the name called by an identifier? -/
def EnumStyle.suits : EnumStyle → String → Bool
  | .capitalized, name => Identifier.capitalizes name.toList
  | .pascal, name => Identifier.pascalizes name.toList

/-- **The name of an enumeration is an identifier** exactly if the name of its field suits. -/
theorem Convention.isIdentifier_enumName (n : Convention) (name : String) :
    Text.isIdentifier (n.enumName name) = n.enumStyle.suits name := by
  rw [enumName]
  cases n.enumStyle with
  | capitalized => exact Identifier.isIdentifier_capitalizeFirst name
  | pascal =>
    rcases Identifier.isIdentifier_toPascal name with ⟨hempty, hnone⟩ | ⟨hne, hpascal⟩
    · simp only [hempty, if_true, EnumStyle.suits]
      rw [Identifier.isIdentifier_capitalizeFirst, Identifier.pascalizes, hnone]
    · simp only [hne, if_false, EnumStyle.suits]
      exact hpascal

end ClassModel
