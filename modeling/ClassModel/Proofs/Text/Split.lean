import ClassModel.Text.Split
import Mathlib.Data.List.Basic
import Mathlib.Data.List.TakeWhile

/-!
# Cutting a text and stripping its ends

Splitting at a character and putting the parts together again undo each other, for parts without
that character. Stripping leaves a text that is `Bare`; a bare text is left alone, also where the
character has been put around it, as empty parts do (`strip_joinAt`).
-/

set_option autoImplicit false

namespace ClassModel
namespace Text

variable {x c : Char} {cs part : List Char} {parts : List (List Char)}

/-! ## Parts -/

theorem mem_of_mem_splitAt (h : part ∈ splitAt x cs) (hc : c ∈ part) : c ∈ cs := by
  induction cs generalizing part with
  | nil => simp_all [splitAt]
  | cons d rest ih =>
    rw [splitAt] at h
    split at h
    · rcases List.mem_cons.mp h with rfl | h
      · cases hc
      · exact List.mem_cons_of_mem d (ih h hc)
    · split at h
      · next hnil => exact absurd hnil (splitAt_ne_nil x rest)
      · next first more hsplit =>
        rcases List.mem_cons.mp h with rfl | h
        · rcases List.mem_cons.mp hc with rfl | hc
          · exact List.mem_cons_self
          · exact List.mem_cons_of_mem d (ih (by simp [hsplit]) hc)
        · exact List.mem_cons_of_mem d (ih (by simp [hsplit, h]) hc)

theorem exists_splitAt_cons (hc : c ≠ x) (cs : List Char) :
    ∃ part parts, splitAt x (c :: cs) = (c :: part) :: parts := by
  rw [splitAt, if_neg hc]
  cases h : splitAt x cs with
  | nil => exact absurd h (splitAt_ne_nil x cs)
  | cons part parts => exact ⟨part, parts, rfl⟩

theorem splitAt_of_notMem (h : x ∉ part) : splitAt x part = [part] := by
  induction part with
  | nil => rfl
  | cons c rest ih =>
    obtain ⟨hc, hrest⟩ := List.ne_and_not_mem_of_not_mem_cons h
    rw [splitAt, if_neg hc.symm, ih hrest]

/-- What stands on both sides of a separator is split by itself. -/
theorem splitAt_append_cons (as cs : List Char) :
    splitAt x (as ++ x :: cs) = splitAt x as ++ splitAt x cs := by
  induction as with
  | nil => simp [splitAt]
  | cons a rest ih =>
    rw [List.cons_append, splitAt, splitAt, ih]
    split
    · rfl
    · cases hrest : splitAt x rest with
      | nil => exact absurd hrest (splitAt_ne_nil x rest)
      | cons first more => rfl

theorem splitAt_append (h : x ∉ part) (cs : List Char) :
    splitAt x (part ++ x :: cs) = part :: splitAt x cs := by
  rw [splitAt_append_cons, splitAt_of_notMem h]
  rfl

theorem joinAt_cons (hne : parts ≠ []) :
    joinAt x (part :: parts) = part ++ x :: joinAt x parts := by
  cases parts with
  | nil => exact absurd rfl hne
  | cons next rest => rfl

/-- Parts without the separator come back as they were. -/
theorem splitAt_joinAt (hne : parts ≠ []) (h : ∀ part ∈ parts, x ∉ part) :
    splitAt x (joinAt x parts) = parts := by
  induction parts with
  | nil => exact absurd rfl hne
  | cons part rest ih =>
    obtain ⟨hpart, hrest⟩ := List.forall_mem_cons.mp h
    cases rest with
    | nil => exact splitAt_of_notMem hpart
    | cons next rest =>
      have hnext : next :: rest ≠ [] := List.cons_ne_nil next rest
      rw [joinAt_cons hnext, splitAt_append hpart, ih hnext hrest]

/-! ## Ends -/

/-- The text neither starts nor ends with the character. -/
def Bare (x : Char) (cs : List Char) : Prop := cs.head? ≠ some x ∧ cs.getLast? ≠ some x

theorem head?_dropLeading (x : Char) (cs : List Char) : (dropLeading x cs).head? ≠ some x := by
  induction cs with
  | nil => simp [dropLeading]
  | cons c rest ih =>
    by_cases hc : c = x
    · rw [dropLeading, List.dropWhile_cons_of_pos (by simpa using hc)]
      exact ih
    · rw [dropLeading, List.dropWhile_cons_of_neg (by simpa using hc)]
      simpa using hc

theorem mem_dropLeading_of_ne (hc : c ∈ cs) (hne : c ≠ x) : c ∈ dropLeading x cs := by
  rw [← List.takeWhile_append_dropWhile (p := fun d => decide (d = x)) (l := cs)] at hc
  rcases List.mem_append.mp hc with hc | hc
  · have hx := List.mem_takeWhile_imp hc
    exact absurd (by simpa using hx) hne
  · exact hc

theorem getLast?_dropLeading (h : dropLeading x cs ≠ []) :
    (dropLeading x cs).getLast? = cs.getLast? := by
  have hsuffix : dropLeading x cs <:+ cs := List.dropWhile_suffix _
  rw [List.getLast?_eq_some_getLast h, hsuffix.getLast h, List.getLast?_eq_some_getLast]

theorem dropLeading_eq_self (h : cs.head? ≠ some x) : dropLeading x cs = cs := by
  cases cs with
  | nil => rfl
  | cons c rest => exact List.dropWhile_cons_of_neg (by simpa using h)

theorem dropLeading_append {as : List Char} (ha : ∀ c ∈ as, c = x) (h : cs.head? ≠ some x) :
    dropLeading x (as ++ cs) = cs := by
  rw [dropLeading, List.dropWhile_append_of_pos (by simpa using ha)]
  exact dropLeading_eq_self h

theorem bare_strip (x : Char) (cs : List Char) : Bare x (strip x cs) := by
  constructor
  · rw [strip, List.head?_reverse]
    by_cases h : dropLeading x (dropLeading x cs).reverse = []
    · simp [h]
    · rw [getLast?_dropLeading h, List.getLast?_reverse]
      exact head?_dropLeading x cs
  · rw [strip, List.getLast?_reverse]
    exact head?_dropLeading x _

theorem isInfix_strip (x : Char) (cs : List Char) : strip x cs <:+: cs := by
  have hinner : (dropLeading x cs).reverse <:+: cs.reverse :=
    List.reverse_infix.mpr (List.dropWhile_suffix _).isInfix
  have houter : dropLeading x (dropLeading x cs).reverse <:+: cs.reverse :=
    (List.dropWhile_suffix _).isInfix.trans hinner
  have hback := List.reverse_infix.mpr houter
  rwa [List.reverse_reverse] at hback

theorem mem_of_mem_strip (h : c ∈ strip x cs) : c ∈ cs := (isInfix_strip x cs).subset h

theorem mem_strip_of_ne (hc : c ∈ cs) (hne : c ≠ x) : c ∈ strip x cs :=
  List.mem_reverse.mpr
    (mem_dropLeading_of_ne (List.mem_reverse.mpr (mem_dropLeading_of_ne hc hne)) hne)

/-- What is left of a stripped text starts with the first character that is not stripped. -/
theorem head?_strip (x : Char) (cs : List Char) :
    (strip x cs).head? = cs.find? fun c => c ≠ x := by
  have hhead : (dropLeading x cs).head? = cs.find? fun c => c ≠ x := by
    rw [dropLeading, List.find?_eq_head?_dropWhile_not]
    simp
  rw [← hhead, strip, List.head?_reverse]
  by_cases h : dropLeading x (dropLeading x cs).reverse = []
  · -- Nothing is left from the end, so nothing was left from the start.
    have hnil : dropLeading x cs = [] := by
      by_contra hne
      obtain ⟨d, hd⟩ := Option.ne_none_iff_exists'.mp (mt List.head?_eq_none_iff.mp hne)
      have hdx : d ≠ x := fun heq => head?_dropLeading x cs (by rw [hd, heq])
      have hmem := mem_dropLeading_of_ne
        (List.mem_reverse.mpr (List.mem_of_mem_head? hd)) hdx
      rw [h] at hmem
      cases hmem
    rw [h, hnil]
    rfl
  · rw [getLast?_dropLeading h, List.getLast?_reverse]

/-- A text of the character only is stripped to nothing. -/
theorem strip_of_all (h : ∀ c ∈ cs, c = x) : strip x cs = [] := by
  have hfind : cs.find? (fun c => c ≠ x) = none := by
    rw [List.find?_eq_none]
    intro c hc
    simpa using h c hc
  rw [← List.head?_eq_none_iff, head?_strip, hfind]

theorem strip_eq_self (h : Bare x cs) : strip x cs = cs := by
  obtain ⟨hhead, hlast⟩ := h
  have hback : cs.reverse.head? ≠ some x := by rwa [List.head?_reverse]
  rw [strip, dropLeading_eq_self hhead, dropLeading_eq_self hback, List.reverse_reverse]

/-- What is put around a bare text is stripped again. -/
theorem strip_append {as bs : List Char} (ha : ∀ c ∈ as, c = x) (hb : ∀ c ∈ bs, c = x)
    (h : Bare x cs) : strip x (as ++ cs ++ bs) = cs := by
  by_cases hne : cs = []
  · subst hne
    rw [List.append_nil]
    exact strip_of_all fun c hc => (List.mem_append.mp hc).elim (ha c) (hb c)
  obtain ⟨hhead, hlast⟩ := h
  have hfront : (cs ++ bs).head? ≠ some x := by
    rw [List.head?_append_of_ne_nil _ hne]
    exact hhead
  have hback : cs.reverse.head? ≠ some x := by rwa [List.head?_reverse]
  have hb' : ∀ c ∈ bs.reverse, c = x := fun c hc => hb c (List.mem_reverse.mp hc)
  rw [strip, List.append_assoc, dropLeading_append ha hfront, List.reverse_append,
    dropLeading_append hb' hback, List.reverse_reverse]

/-! ## Parts put together -/

/-- Empty parts in front are as many separators. -/
theorem joinAt_replicate_append (hne : parts ≠ []) (n : Nat) :
    joinAt x (List.replicate n [] ++ parts) = List.replicate n x ++ joinAt x parts := by
  induction n with
  | zero => rfl
  | succ n ih =>
    rw [List.replicate_succ, List.cons_append, joinAt_cons (by simp [hne]), ih,
      List.replicate_succ]
    rfl

theorem joinAt_append_replicate (hne : parts ≠ []) (n : Nat) :
    joinAt x (parts ++ List.replicate n []) = joinAt x parts ++ List.replicate n x := by
  induction parts with
  | nil => exact absurd rfl hne
  | cons part rest ih =>
    cases rest with
    | nil =>
      cases n with
      | zero => simp [joinAt]
      | succ n =>
        have hblank := joinAt_replicate_append (x := x) (List.cons_ne_nil [] []) n
        rw [List.singleton_append, joinAt_cons (by simp), List.replicate_succ', hblank,
          joinAt, joinAt, List.append_nil, ← List.replicate_succ]
    | cons next rest =>
      have hcons : next :: rest ≠ [] := List.cons_ne_nil next rest
      rw [List.cons_append, joinAt_cons (by simp), ih hcons, joinAt_cons hcons, List.append_assoc]
      rfl

theorem head?_joinAt (hpart : part ≠ []) (parts : List (List Char)) :
    (joinAt x (part :: parts)).head? = part.head? := by
  cases parts with
  | nil => rfl
  | cons next rest =>
    rw [joinAt_cons (List.cons_ne_nil next rest), List.head?_append_of_ne_nil _ hpart]

theorem getLast?_joinAt (before : List (List Char)) (hpart : part ≠ []) :
    (joinAt x (before ++ [part])).getLast? = part.getLast? := by
  induction before with
  | nil => rfl
  | cons first rest ih =>
    have hne : joinAt x (rest ++ [part]) ≠ [] := by
      intro hnil
      rw [hnil] at ih
      exact hpart (List.getLast?_eq_none_iff.mp ih.symm)
    obtain ⟨c, cs, hcs⟩ := List.exists_cons_of_ne_nil hne
    rw [List.cons_append, joinAt_cons (by simp), List.getLast?_append_of_ne_nil _ (by simp), hcs,
      List.getLast?_cons_cons, ← hcs, ih]

/-- Parts put together start and end like the first and the last of them. -/
theorem bare_joinAt {first last : List Char} {rest before : List (List Char)}
    (h : first :: rest = before ++ [last]) (hfirst : first ≠ []) (hlast : last ≠ [])
    (hx : ∀ part ∈ first :: rest, x ∉ part) : Bare x (joinAt x (first :: rest)) := by
  constructor
  · rw [head?_joinAt hfirst]
    intro hx'
    exact hx first List.mem_cons_self (List.mem_of_mem_head? hx')
  · rw [h, getLast?_joinAt before hlast]
    intro hx'
    have hmem : last ∈ first :: rest := by simp [h]
    exact hx last hmem (List.mem_of_getLast? hx')

/-- Empty parts around others are stripped. -/
theorem strip_joinAt (hne : parts ≠ []) (h : Bare x (joinAt x parts)) (m n : Nat) :
    strip x (joinAt x (List.replicate m [] ++ (parts ++ List.replicate n []))) =
      joinAt x parts := by
  have hall : ∀ k, ∀ c ∈ List.replicate k x, c = x := fun k c hc => List.eq_of_mem_replicate hc
  rw [joinAt_replicate_append (by simp [hne]), joinAt_append_replicate hne, ← List.append_assoc]
  exact strip_append (hall m) (hall n) h

/-- Nothing is left of empty parts. -/
theorem strip_joinAt_replicate (n : Nat) : strip x (joinAt x (List.replicate n [])) = [] := by
  cases n with
  | zero => rfl
  | succ n =>
    have hbare : Bare x (joinAt x [[]]) := by simp [Bare, joinAt]
    have hstrip := strip_joinAt (List.cons_ne_nil [] []) hbare n 0
    rwa [List.replicate_zero, List.append_nil, ← List.replicate_succ'] at hstrip

end Text
end ClassModel
