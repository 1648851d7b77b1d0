import ClassModel.Proofs.Text.IdentifierCase
import ClassModel.Template.Parser

/-!
# What a template renders to

Two statements about templates. Pieces see no more of where they are rendered than what the names in
their slots stand for (`renderParts_congr`). And a text with a slot here and there renders to the
same text with values in the slots: `fill` says so without a parser, and `renderText_spell` that the
parser agrees.

In `fill` a value is written and never read: braces in a value open no slot. Its fault is that of
the first name that stands for nothing, wherever else the template has one.
-/

set_option autoImplicit false

namespace ClassModel
namespace Template

variable {scope scope' : Scope} {parts : List Part} {p : Part} {name text last : String}
  {slots : List (String × String)} {cs rest acc : List Char}

/-! ## What pieces depend on -/

/-- The name in the slot, if the piece is one. -/
def Part.name? : Part → Option String
  | .text _ => none
  | .slot name _ => some name

theorem Part.render_congr (h : ∀ name ∈ p.name?, scope.value? name = scope'.value? name) :
    p.render scope = p.render scope' := by
  cases p with
  | text s => rfl
  | slot name filters => rw [Part.render, Part.render, h name rfl]

/-- **Only the names in the slots matter.** -/
theorem renderParts_congr
    (h : ∀ p ∈ parts, ∀ name ∈ p.name?, scope.value? name = scope'.value? name) :
    renderParts scope parts = renderParts scope' parts := by
  induction parts with
  | nil => rfl
  | cons p rest ih =>
    obtain ⟨hp, hrest⟩ := List.forall_mem_cons.mp h
    rw [renderParts, renderParts, Part.render_congr hp, ih hrest]

/-! ## Texts with plain slots -/

/-- A text with slots: each slot with the text before it, and the text after the last one. -/
def spell (last : String) : List (String × String) → List Char
  | [] => last.toList
  | (text, name) :: slots =>
    text.toList ++ '\x7b' :: '\x7b' :: ' ' :: (name.toList ++ ' ' :: '\x7d' :: '\x7d' ::
      spell last slots)

/-- The text with values in its slots. -/
def fill (scope : Scope) (last : String) : List (String × String) → Except Reason String
  | [] => .ok last
  | (text, name) :: slots =>
    match scope.value? name with
    | none => .error (.undefinedName name)
    | some value => (fill scope last slots).map fun after => text ++ (value.display ++ after)

/-- A text without slots and with line feeds only. -/
def IsPlain (s : String) : Prop := '\x7b' ∉ s.toList ∧ '\r' ∉ s.toList

/-- A name that a slot can have. -/
def IsName (s : String) : Prop := Text.isIdentifier s = true ∧ s ≠ denial

/-- The pieces of a text with slots. -/
def drafts (last : String) : List (String × String) → List Draft
  | [] => [.text last]
  | (text, name) :: slots => .text text :: .slot name [] :: drafts last slots

/-! ### Reading -/

/-- No blank goes on an identifier. -/
theorem blank_ranges_apart :
    Text.blankRanges.ascendingFrom 0 = true ∧
      Text.blankRanges.mask &&& Text.identifierContinueRanges.mask = 0 := by
  decide +kernel

theorem isBlank_eq_false {c : Char} (h : Text.isIdentifierContinue c = true) :
    Text.isBlank c = false := by
  rw [Text.isBlank, Text.Ranges.has_eq_testBit blank_ranges_apart.1]
  rw [Text.isIdentifierContinue_eq] at h
  have hboth := congrArg (Nat.testBit · c.toNat) blank_ranges_apart.2
  simpa [Nat.testBit_and, h] using hboth

/-- Up to a brace, text is collected. -/
theorem readParts_append (h : '\x7b' ∉ cs) (fuel : Nat) (acc rest : List Char) :
    readParts (fuel + cs.length) acc (cs ++ rest) = readParts fuel (cs.reverse ++ acc) rest := by
  induction cs generalizing acc with
  | nil => rfl
  | cons c cs ih =>
    obtain ⟨hc, hcs⟩ := List.ne_and_not_mem_of_not_mem_cons h
    rw [List.length_cons, ← Nat.add_assoc, List.cons_append, readParts]
    · rw [ih hcs]
      simp
    · intro _ hc' _
      exact hc hc'.symm

theorem skipGap_blank (rest : List Char) : skipGap (' ' :: rest) = skipGap rest := rfl

theorem exists_start_of_isIdentifier (h : Text.isIdentifier name = true) :
    ∃ c cs, name.toList = c :: cs ∧ Text.isIdentifierStart c = true ∧
      ∀ d ∈ c :: cs, Text.isIdentifierContinue d = true := by
  rw [Text.isIdentifier_eq] at h
  cases hname : name.toList with
  | nil =>
    rw [hname] at h
    cases h
  | cons c cs =>
    rw [hname, Text.isIdentifierChars, Bool.and_eq_true, List.all_eq_true] at h
    exact ⟨c, cs, rfl, h.1,
      List.forall_mem_cons.mpr ⟨Text.isIdentifierContinue_of_start h.1, h.2⟩⟩

theorem readWord_name (h : Text.isIdentifier name = true) (rest : List Char) :
    readWord (name.toList ++ ' ' :: rest) = .ok (name, skipGap rest) := by
  obtain ⟨c, cs, hname, hstart, hall⟩ := exists_start_of_isIdentifier h
  have hspace : Text.isIdentifierContinue ' ' = false := by decide +kernel
  have hword : (name.toList ++ ' ' :: rest).takeWhile (fun c => Text.isIdentifierContinue c) =
      c :: cs := by
    rw [hname, List.takeWhile_append_of_pos hall, List.takeWhile_cons_of_neg (by simp [hspace]),
      List.append_nil]
  have hrest : (name.toList ++ ' ' :: rest).drop (c :: cs).length = ' ' :: rest := by
    rw [hname, List.drop_left]
  simp only [readWord, hword, hstart, hrest, skipGap_blank, if_true]
  rw [← hname, String.ofList_toList]

theorem readSlot_name (h : IsName name) (rest : List Char) :
    readSlot (' ' :: (name.toList ++ ' ' :: '\x7d' :: '\x7d' :: rest)) =
      .ok (.slot name [], rest) := by
  have hword := readWord_name h.1 ('\x7d' :: '\x7d' :: rest)
  obtain ⟨c, cs, hname, hstart, hall⟩ := exists_start_of_isIdentifier h.1
  have hblank := isBlank_eq_false (hall c List.mem_cons_self)
  have hbrace : c ≠ '\x7d' := by
    rintro rfl
    exact absurd hstart (by decide +kernel)
  rw [hname] at hword ⊢
  rw [readSlot, skipGap_blank, List.cons_append, skipGap,
    List.dropWhile_cons_of_neg (by simp [hblank])]
  split
  · next hbraces => exact absurd (List.cons.inj hbraces).1 hbrace
  · rw [← List.cons_append, hword]
    have hgap : skipGap ('\x7d' :: '\x7d' :: rest) = '\x7d' :: '\x7d' :: rest := rfl
    simp [bind, Except.bind, hgap, readCalls, h.2]

/-- The pieces come back as they were spelled. The reader needs no more steps than there are
characters. -/
theorem readParts_spell (hslots : ∀ p ∈ slots, IsPlain p.1 ∧ IsName p.2) (hlast : IsPlain last)
    {fuel : Nat} (hfuel : (spell last slots).length < fuel) :
    readParts fuel [] (spell last slots) = .ok (drafts last slots) := by
  induction slots generalizing fuel with
  | nil =>
    obtain ⟨more, rfl⟩ : ∃ more, fuel = more + 1 + last.toList.length := by
      exact ⟨fuel - 1 - last.toList.length, by rw [spell] at hfuel; omega⟩
    have hread := readParts_append hlast.1 (more + 1) [] []
    simp only [List.append_nil] at hread
    rw [spell, hread, readParts]
    simp [drafts]
  | cons p slots ih =>
    obtain ⟨text, name⟩ := p
    obtain ⟨⟨htext, hname⟩, hrest⟩ := List.forall_mem_cons.mp hslots
    have hlength : (spell last slots).length + 1 + text.toList.length < fuel := by
      simp only [spell, List.length_append, List.length_cons] at hfuel
      omega
    -- The text before the slot takes a step for each character, the slot one step in all.
    obtain ⟨more, rfl⟩ : ∃ more, fuel = more + 1 + text.toList.length :=
      ⟨fuel - 1 - text.toList.length, by omega⟩
    rw [spell, readParts_append htext.1, readParts, readSlot_name hname]
    simp only [List.append_nil, List.reverse_reverse, String.ofList_toList]
    have hmore : readParts more [] (spell last slots) = .ok (drafts last slots) :=
      ih hrest (by omega)
    simp [bind, Except.bind, hmore, drafts]

theorem unifyNewlines_of_notMem (h : '\r' ∉ cs) : Text.unifyNewlines cs = cs := by
  induction cs with
  | nil => rfl
  | cons c cs ih =>
    obtain ⟨hc, hcs⟩ := List.ne_and_not_mem_of_not_mem_cons h
    rw [Text.unifyNewlines, ih hcs]
    · intro _ hc' _
      exact hc hc'.symm
    · intro hc'
      exact hc hc'.symm

theorem return_notMem_spell (hslots : ∀ p ∈ slots, IsPlain p.1 ∧ IsName p.2)
    (hlast : IsPlain last) : '\r' ∉ spell last slots := by
  induction slots with
  | nil => exact hlast.2
  | cons p slots ih =>
    obtain ⟨text, name⟩ := p
    obtain ⟨⟨htext, hname⟩, hrest⟩ := List.forall_mem_cons.mp hslots
    have hin : '\r' ∉ name.toList := by
      obtain ⟨c, cs, hcs, _, hall⟩ := exists_start_of_isIdentifier hname.1
      rw [hcs]
      intro h
      exact absurd (hall _ h) (by decide +kernel)
    simpa [spell, hin] using ⟨htext.2, ih hrest⟩

/-- The pieces once their filters, of which there are none, have been looked up. -/
def pieces (last : String) : List (String × String) → List Part
  | [] => [.text last]
  | (text, name) :: slots => .text text :: .slot name [] :: pieces last slots

theorem partsOf_drafts (last : String) (slots : List (String × String)) :
    partsOf (drafts last slots) = .ok (pieces last slots) := by
  induction slots with
  | nil => rfl
  | cons p slots ih => simp [drafts, pieces, partsOf, Draft.part, filtersOf, ih, Except.map]

/-! ### Rendering -/

theorem renderParts_pieces (scope : Scope) (last : String) (slots : List (String × String)) :
    renderParts scope (pieces last slots) = fill scope last slots := by
  induction slots with
  | nil => simp [pieces, fill, renderParts, Part.render, Except.map]
  | cons p slots ih =>
    obtain ⟨text, name⟩ := p
    rw [pieces, fill, renderParts, Part.render, renderParts, Part.render]
    cases scope.value? name with
    | none => rfl
    | some value =>
      simp only [applyAll, Except.map, ih]
      cases fill scope last slots <;> rfl

/-- **A text with slots renders to the text with the values in them.** -/
theorem renderText_spell (hslots : ∀ p ∈ slots, IsPlain p.1 ∧ IsName p.2) (hlast : IsPlain last)
    (hself : scope.values.has ownName = false) :
    renderText scope (.ofList (spell last slots)) = fill scope last slots := by
  have hlines : Text.unifyNewlines (spell last slots) = spell last slots :=
    unifyNewlines_of_notMem (return_notMem_spell hslots hlast)
  have hparse : parse (.ofList (spell last slots)) = .ok (pieces last slots) := by
    rw [parse, String.toList_ofList, hlines]
    simp only [readParts_spell hslots hlast (Nat.lt_succ_self _), partsOf_drafts]
  rw [renderText, hparse]
  simp only [hself, Bool.false_eq_true, if_false, renderParts_pieces]

/-- A template of a set renders to the same, and its fault names it. -/
theorem render_spell {templates : Entries String} {template : String} {values : Entries Json}
    (ht : templates.get? template = some (.ofList (spell last slots)))
    (hslots : ∀ p ∈ slots, IsPlain p.1 ∧ IsName p.2) (hlast : IsPlain last)
    (hself : values.has ownName = false) :
    render templates template values =
      (fill ⟨template, values⟩ last slots).mapError (⟨template, ·⟩) := by
  have htext : renderText ⟨template, values⟩ (.ofList (spell last slots)) =
      fill ⟨template, values⟩ last slots := renderText_spell hslots hlast hself
  rw [render, ht]
  dsimp only
  rw [htext]
  cases fill ⟨template, values⟩ last slots <;> rfl

/-- Braces in a value open no slot. -/
example : renderText ⟨"greeting", [("a", .str "\x7b\x7b b \x7d\x7d")]⟩ "x\x7b\x7b a \x7d\x7dy" =
    .ok "x\x7b\x7b b \x7d\x7dy" := by decide +kernel

end Template
end ClassModel
