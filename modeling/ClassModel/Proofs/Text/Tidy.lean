import ClassModel.Proofs.Text.Split
import ClassModel.Text.Tidy
import Mathlib.Data.List.DropRight

/-!
# The normal form of a source text

A text is read as its lines that are not blank, each with the number of blank lines right before it
(`spaced`). The normal form settles these: no line has white space at its end, the first line has no
blank line before it, and the others have as many as they had, but two at most (`settle`). Written
out again, with a line feed at the end, that is the text in normal form (`rows_tidy`); so nothing
but blank lines and trailing white space is lost, and a text in normal form is left alone.

A text of blank lines only has nothing to settle. Its normal form is a line feed.
-/

set_option autoImplicit false

namespace ClassModel
namespace Text

variable {cs l : List Char} {ls : List (List Char)} {n seen : Nat} {t : String}

/-! ## The end of a line -/

theorem trimEnd_eq_nil_iff : trimEnd cs = [] ↔ isBlankLine cs = true := by
  rw [isBlankLine, List.all_eq_true]
  exact List.rdropWhile_eq_nil_iff

theorem trimEnd_trimEnd (cs : List Char) : trimEnd (trimEnd cs) = trimEnd cs :=
  List.rdropWhile_idempotent _ _

theorem isPrefix_trimEnd (cs : List Char) : trimEnd cs <+: cs := List.rdropWhile_prefix _ cs

theorem isBlankLine_trimEnd (cs : List Char) : isBlankLine (trimEnd cs) = isBlankLine cs := by
  rw [Bool.eq_iff_iff, ← trimEnd_eq_nil_iff, trimEnd_trimEnd, trimEnd_eq_nil_iff]

theorem ne_nil_of_not_blank (h : isBlankLine l = false) : l ≠ [] := by
  rintro rfl
  cases h

/-! ## Lines and the blank lines before them -/

/-- Lines that are not blank, each with the number of blank lines right before it. -/
abbrev Gapped := List (Nat × List Char)

variable {g : Gapped} {p : Nat × List Char}

/-- The lines that are not blank; `seen` blank ones came right before. -/
def spaced (seen : Nat) : List (List Char) → Gapped
  | [] => []
  | l :: rest => if isBlankLine l then spaced (seen + 1) rest else (seen, l) :: spaced 0 rest

/-- The lines with the blank lines before them. -/
def layOut (g : Gapped) : List (List Char) := g.flatMap fun p => List.replicate p.1 [] ++ [p.2]

theorem layOut_cons (p : Nat × List Char) (g : Gapped) :
    layOut (p :: g) = List.replicate p.1 [] ++ p.2 :: layOut g := by
  rw [layOut, List.flatMap_cons, List.append_assoc]
  rfl

theorem spaced_of_blank (h : isBlankLine l = true) (seen : Nat) (ls : List (List Char)) :
    spaced seen (l :: ls) = spaced (seen + 1) ls := by
  rw [spaced, if_pos h]

theorem spaced_of_not_blank (h : isBlankLine l = false) (seen : Nat) (ls : List (List Char)) :
    spaced seen (l :: ls) = (seen, l) :: spaced 0 ls := by
  rw [spaced, h]
  rfl

theorem mem_of_mem_spaced (h : p ∈ spaced seen ls) : p.2 ∈ ls ∧ isBlankLine p.2 = false := by
  induction ls generalizing seen with
  | nil => cases h
  | cons l rest ih =>
    cases hl : isBlankLine l with
    | true =>
      rw [spaced_of_blank hl] at h
      exact ⟨List.mem_cons_of_mem l (ih h).1, (ih h).2⟩
    | false =>
      rw [spaced_of_not_blank hl] at h
      rcases List.mem_cons.mp h with rfl | h
      · exact ⟨List.mem_cons_self, hl⟩
      · exact ⟨List.mem_cons_of_mem l (ih h).1, (ih h).2⟩

/-- No line that is not blank is lost. -/
theorem map_snd_spaced (seen : Nat) (ls : List (List Char)) :
    (spaced seen ls).map (·.2) = ls.filter fun l => !isBlankLine l := by
  induction ls generalizing seen with
  | nil => rfl
  | cons l rest ih =>
    cases hl : isBlankLine l with
    | true => rw [spaced_of_blank hl, List.filter_cons_of_neg (by simp [hl]), ih]
    | false =>
      rw [spaced_of_not_blank hl, List.filter_cons_of_pos (by simp [hl]), List.map_cons, ih]

theorem spaced_eq_nil_iff : spaced seen ls = [] ↔ ∀ l ∈ ls, isBlankLine l = true := by
  rw [← List.map_eq_nil_iff (f := (·.2)), map_snd_spaced, List.filter_eq_nil_iff]
  simp

theorem spaced_replicate_append (n seen : Nat) (ls : List (List Char)) :
    spaced seen (List.replicate n [] ++ ls) = spaced (seen + n) ls := by
  induction n generalizing seen with
  | zero => rfl
  | succ n ih =>
    rw [List.replicate_succ, List.cons_append, spaced_of_blank rfl, ih, Nat.add_right_comm,
      Nat.add_assoc]

/-- Lines that are laid out are read back, whatever blank lines follow. -/
theorem spaced_layOut (h : ∀ p ∈ g, isBlankLine p.2 = false) (n : Nat) :
    spaced 0 (layOut g ++ List.replicate n []) = g := by
  induction g with
  | nil =>
    have hblank := spaced_replicate_append n 0 []
    rwa [List.append_nil] at hblank
  | cons p rest ih =>
    obtain ⟨hp, hrest⟩ := List.forall_mem_cons.mp h
    rw [layOut_cons, List.append_assoc, spaced_replicate_append, List.cons_append,
      spaced_of_not_blank hp, ih hrest, Nat.zero_add]

/-! ## Settled lines -/

/-- The line without white space at its end, and no more blank lines before it than may stand
together. -/
def tighten (p : Nat × List Char) : Nat × List Char := (min p.1 mostBlank, trimEnd p.2)

/-- The lines tightened, and none that is blank before the first one. -/
def settle : Gapped → Gapped
  | [] => []
  | p :: rest => (0, trimEnd p.2) :: rest.map tighten

theorem settle_eq_nil_iff : settle g = [] ↔ g = [] := by
  cases g <;> simp [settle]

theorem map_snd_settle (g : Gapped) : (settle g).map (·.2) = (g.map (·.2)).map trimEnd := by
  cases g with
  | nil => rfl
  | cons p rest => simp [settle, tighten, Function.comp_def]

/-- Each settled line is one of the lines, cut at its end. -/
theorem exists_of_mem_settle (h : p ∈ settle g) : ∃ q ∈ g, trimEnd q.2 = p.2 := by
  have hmem := List.mem_map_of_mem (f := (·.2)) h
  rw [map_snd_settle, List.map_map] at hmem
  exact List.mem_map.mp hmem

/-- What settled lines are. -/
structure IsSettled (g : Gapped) : Prop where
  lines : ∀ p ∈ g, isBlankLine p.2 = false ∧ trimEnd p.2 = p.2
  gaps : ∀ p ∈ g, p.1 ≤ mostBlank
  first : ∀ p ∈ g.head?, p.1 = 0

theorem isSettled_settle (h : ∀ p ∈ g, isBlankLine p.2 = false) : IsSettled (settle g) where
  lines p hp := by
    obtain ⟨q, hq, heq⟩ := exists_of_mem_settle hp
    rw [← heq, isBlankLine_trimEnd]
    exact ⟨h q hq, trimEnd_trimEnd q.2⟩
  gaps p hp := by
    cases g with
    | nil => cases hp
    | cons q rest =>
      rcases List.mem_cons.mp hp with rfl | hp
      · exact Nat.zero_le _
      · obtain ⟨r, _, rfl⟩ := List.mem_map.mp hp
        exact Nat.min_le_right _ _
  first p hp := by
    cases g with
    | nil => cases hp
    | cons q rest =>
      cases hp
      rfl

theorem IsSettled.settle_eq (h : IsSettled g) : settle g = g := by
  cases g with
  | nil => rfl
  | cons p rest =>
    obtain ⟨hp, hrest⟩ := List.forall_mem_cons.mp h.lines
    have hfirst : p.1 = 0 := h.first p rfl
    have htight : rest.map tighten = rest := by
      refine (List.map_congr_left ?_).trans (List.map_id rest)
      intro q hq
      have hgap := h.gaps q (List.mem_cons_of_mem p hq)
      rw [tighten, Nat.min_eq_left hgap, (hrest q hq).2, id]
    rw [settle, htight, hp.2, ← hfirst]

/-! ## Limiting the blank lines -/

/-- Blank lines are limited to those that stand before the tightened lines, and some at the end. -/
theorem exists_limitBlank_eq (seen : Nat) (ls : List (List Char)) : ∃ n,
    List.replicate (min seen mostBlank) [] ++ limitBlank seen (ls.map trimEnd) =
      layOut ((spaced seen ls).map tighten) ++ List.replicate n [] := by
  induction ls generalizing seen with
  | nil => exact ⟨min seen mostBlank, List.append_nil _⟩
  | cons l rest ih =>
    rw [List.map_cons, limitBlank]
    cases hl : isBlankLine l with
    | true =>
      obtain ⟨n, hn⟩ := ih (seen + 1)
      refine ⟨n, ?_⟩
      rw [spaced_of_blank hl, ← hn, trimEnd_eq_nil_iff.mpr hl, List.isEmpty_nil, if_pos rfl]
      split
      · next hseen =>
        -- One more blank line is kept.
        have hmin : min (seen + 1) mostBlank = min seen mostBlank + 1 := by omega
        rw [hmin, List.replicate_succ', List.append_assoc]
        rfl
      · next hseen =>
        have hmin : min (seen + 1) mostBlank = min seen mostBlank := by omega
        rw [hmin]
    | false =>
      obtain ⟨n, hn⟩ := ih 0
      have hne : (trimEnd l).isEmpty = false := by
        rw [List.isEmpty_eq_false_iff]
        apply ne_nil_of_not_blank
        rw [isBlankLine_trimEnd, hl]
      refine ⟨n, ?_⟩
      rw [spaced_of_not_blank hl, hne, List.map_cons, layOut_cons, List.append_assoc,
        List.cons_append, ← hn]
      rfl

/-! ## Lines that are laid out -/

theorem mem_layOut (h : l ∈ layOut g) : l = [] ∨ ∃ p ∈ g, p.2 = l := by
  obtain ⟨p, hp, hl⟩ := List.mem_flatMap.mp h
  rcases List.mem_append.mp hl with hl | hl
  · exact Or.inl (List.eq_of_mem_replicate hl)
  · exact Or.inr ⟨p, hp, (List.mem_singleton.mp hl).symm⟩

/-- The last of several lines that are laid out. -/
theorem exists_last_layOut (hne : g ≠ []) : ∃ before, ∃ p ∈ g, layOut g = before ++ [p.2] := by
  rcases List.eq_nil_or_concat g with hnil | ⟨g', p, rfl⟩
  · exact absurd hnil hne
  · refine ⟨layOut g' ++ List.replicate p.1 [], p, by simp, ?_⟩
    simp [layOut]

/-- Settled lines that are laid out neither start nor end with a line feed. -/
theorem bare_layOut (h : IsSettled g) (hne : g ≠ []) (hfeed : ∀ p ∈ g, '\n' ∉ p.2) :
    Bare '\n' (joinAt '\n' (layOut g)) := by
  obtain ⟨before, q, hq, hlast⟩ := exists_last_layOut hne
  obtain ⟨p, rest, rfl⟩ := List.exists_cons_of_ne_nil hne
  have hline : ∀ r ∈ p :: rest, r.2 ≠ [] := fun r hr => ne_nil_of_not_blank (h.lines r hr).1
  have hrows : ∀ l ∈ layOut (p :: rest), '\n' ∉ l := by
    intro l hl
    rcases mem_layOut hl with rfl | ⟨r, hr, rfl⟩
    · exact List.not_mem_nil
    · exact hfeed r hr
  have hcons : layOut (p :: rest) = p.2 :: layOut rest := by
    rw [layOut_cons, h.first p rfl]
    rfl
  rw [hcons] at hlast hrows ⊢
  exact bare_joinAt hlast (hline p List.mem_cons_self) (hline q hq) hrows

/-! ## The text in normal form -/

/-- The lines of a text, as lists of characters. -/
def rows (t : String) : List (List Char) := splitAt '\n' t.toList

/-- The lines of a text in normal form. The last of them is empty, since a line feed ends the
text. -/
def page : Gapped → List (List Char)
  | [] => [[], []]
  | p :: rest => layOut (p :: rest) ++ [[]]

theorem page_ne_nil (g : Gapped) : page g ≠ [] := by
  cases g <;> simp [page]

theorem mem_page (h : l ∈ page g) : l = [] ∨ ∃ p ∈ g, p.2 = l := by
  cases g with
  | nil => simp_all [page]
  | cons p rest =>
    rcases List.mem_append.mp h with h | h
    · exact mem_layOut h
    · exact Or.inl (List.mem_singleton.mp h)

theorem spaced_page (h : ∀ p ∈ g, isBlankLine p.2 = false) : spaced 0 (page g) = g := by
  cases g with
  | nil => rfl
  | cons p rest => exact spaced_layOut h 1

theorem feed_notMem_of_mem_settle (h : p ∈ settle (spaced 0 (rows t))) : '\n' ∉ p.2 := by
  obtain ⟨q, hq, heq⟩ := exists_of_mem_settle h
  rw [← heq]
  intro hfeed
  exact not_mem_of_mem_splitAt (mem_of_mem_spaced hq).1 ((isPrefix_trimEnd q.2).subset hfeed)

theorem isSettled_settle_spaced (t : String) : IsSettled (settle (spaced 0 (rows t))) :=
  isSettled_settle fun _ hp => (mem_of_mem_spaced hp).2

/-- **The text in normal form is its settled lines, written out.** -/
theorem toList_tidy (t : String) :
    (tidy t).toList = joinAt '\n' (page (settle (spaced 0 (rows t)))) := by
  have hfeed := @feed_notMem_of_mem_settle t
  have hsettled := isSettled_settle_spaced t
  obtain ⟨n, hn⟩ := exists_limitBlank_eq 0 (rows t)
  rw [Nat.zero_min, List.replicate_zero, List.nil_append] at hn
  rw [tidy, String.toList_ofList]
  show strip '\n' (joinAt '\n' (limitBlank 0 ((rows t).map trimEnd))) ++ ['\n'] = _
  rw [hn]
  cases hs : spaced 0 (rows t) with
  | nil =>
    show strip '\n' (joinAt '\n' (List.replicate n [])) ++ ['\n'] = ['\n']
    rw [strip_joinAt_replicate, List.nil_append]
  | cons p rest =>
    rw [hs] at hfeed hsettled
    have hne : settle (p :: rest) ≠ [] := List.cons_ne_nil _ _
    have hcore : layOut (settle (p :: rest)) ≠ [] := by simp [settle, layOut_cons]
    -- What is stripped are the blank lines before the first line and those after the last one.
    have hlines : layOut ((p :: rest).map tighten) =
        List.replicate (min p.1 mostBlank) [] ++ layOut (settle (p :: rest)) := by
      rw [List.map_cons, settle, layOut_cons, layOut_cons]
      rfl
    have hlast := joinAt_append_replicate (x := '\n') hcore 1
    rw [hlines, List.append_assoc,
      strip_joinAt hcore (bare_layOut hsettled hne fun _ hq => hfeed hq)]
    exact hlast.symm

theorem rows_tidy (t : String) : rows (tidy t) = page (settle (spaced 0 (rows t))) := by
  rw [rows, toList_tidy]
  apply splitAt_joinAt (page_ne_nil _)
  intro l hl
  rcases mem_page hl with rfl | ⟨p, hp, rfl⟩
  · exact List.not_mem_nil
  · exact feed_notMem_of_mem_settle hp

theorem spaced_tidy (t : String) : spaced 0 (rows (tidy t)) = settle (spaced 0 (rows t)) := by
  rw [rows_tidy]
  exact spaced_page fun p hp => ((isSettled_settle_spaced t).lines p hp).1

/-- The lines of a text that are not blank. -/
def written (t : String) : List (List Char) := (rows t).filter fun l => !isBlankLine l

/-- No line is lost, and each is cut at its end. -/
theorem written_tidy (t : String) : written (tidy t) = (written t).map trimEnd := by
  rw [written, written, ← map_snd_spaced 0, ← map_snd_spaced 0, spaced_tidy, map_snd_settle]

theorem tidy_tidy (t : String) : tidy (tidy t) = tidy t := by
  rw [← String.toList_inj, toList_tidy, toList_tidy, spaced_tidy,
    (isSettled_settle_spaced t).settle_eq]

/-! ## What a page looks like -/

/-- A run that has not the line between two texts is a run of one of them. -/
theorem infix_or_infix {run ls ms : List (List Char)} (h : run <:+: ls ++ l :: ms) (hl : l ∉ run) :
    run <:+: ls ∨ run <:+: ms := by
  have hstart : ∀ {part : List (List Char)}, part <+: l :: ms → l ∉ part → part = [] := by
    intro part hpart hl
    rcases List.prefix_cons_iff.mp hpart with hnil | ⟨more, rfl, _⟩
    · exact hnil
    · exact absurd List.mem_cons_self hl
  rcases List.infix_append_iff.mp h with h | h | ⟨as, bs, rfl, has, hbs⟩
  · exact Or.inl h
  · rcases List.infix_cons_iff.mp h with h | h
    · rw [hstart h hl]
      exact Or.inr (List.nil_infix)
    · exact Or.inr h
  · rw [hstart hbs fun hmem => hl (List.mem_append_right as hmem), List.append_nil]
    exact Or.inl has.isInfix

/-- The most blank lines that stand together are those before a line, or those at the end. -/
theorem length_le_of_infix_layOut {run : List (List Char)} (h : ∀ p ∈ g, isBlankLine p.2 = false)
    (hgap : ∀ p ∈ g, p.1 ≤ mostBlank) (hn : n ≤ mostBlank)
    (hrun : run <:+: layOut g ++ List.replicate n []) (hblank : ∀ l ∈ run, isBlankLine l = true) :
    run.length ≤ mostBlank := by
  have hreplicate : ∀ {k}, k ≤ mostBlank → run <:+: List.replicate k [] →
      run.length ≤ mostBlank := by
    intro k hk hrun
    have hlen := hrun.length_le
    rw [List.length_replicate] at hlen
    exact hlen.trans hk
  induction g with
  | nil => exact hreplicate hn hrun
  | cons p rest ih =>
    obtain ⟨hp, hrest⟩ := List.forall_mem_cons.mp h
    obtain ⟨hfirst, hmore⟩ := List.forall_mem_cons.mp hgap
    have hline : p.2 ∉ run := by
      intro hmem
      rw [hblank p.2 hmem] at hp
      cases hp
    rw [layOut_cons, List.append_assoc, List.cons_append] at hrun
    rcases infix_or_infix hrun hline with hrun | hrun
    · exact hreplicate hfirst hrun
    · exact ih hrest hmore hrun

theorem length_le_of_infix_page {run : List (List Char)} (h : IsSettled g)
    (hrun : run <:+: page g) (hblank : ∀ l ∈ run, isBlankLine l = true) :
    run.length ≤ mostBlank := by
  cases g with
  | nil => exact hrun.length_le
  | cons p rest =>
    exact length_le_of_infix_layOut (fun p hp => (h.lines p hp).1) h.gaps
      (show 1 ≤ mostBlank by decide) hrun hblank

theorem trimEnd_of_mem_page (h : IsSettled g) (hl : l ∈ page g) : trimEnd l = l := by
  rcases mem_page hl with rfl | ⟨p, hp, rfl⟩
  · rfl
  · exact (h.lines p hp).2

theorem tidy_eq_feed_iff : tidy t = "\n" ↔ ∀ l ∈ rows t, isBlankLine l = true := by
  rw [← @spaced_eq_nil_iff _ 0]
  constructor
  · intro htidy
    -- The line feed has no line that is not blank, and none is lost.
    have hspaced := spaced_tidy t
    rw [htidy] at hspaced
    cases hs : spaced 0 (rows t) with
    | nil => rfl
    | cons p rest =>
      rw [hs] at hspaced
      cases hspaced
  · intro hnil
    rw [← String.toList_inj, toList_tidy, hnil]
    rfl

/-- A page with a line starts and ends with lines that are not blank, the line feed apart. -/
theorem page_ends (h : IsSettled g) (hne : g ≠ []) : ∃ first last before rest,
    page g = first :: rest ∧ page g = before ++ [last, []] ∧
      isBlankLine first = false ∧ isBlankLine last = false := by
  obtain ⟨before, q, hq, hlast⟩ := exists_last_layOut hne
  obtain ⟨p, rest, rfl⟩ := List.exists_cons_of_ne_nil hne
  have hfirst : p.1 = 0 := h.first p rfl
  refine ⟨p.2, q.2, before, layOut rest ++ [[]], ?_, ?_, (h.lines p List.mem_cons_self).1,
    (h.lines q hq).1⟩
  · rw [page, layOut_cons, hfirst]
    rfl
  · rw [page, hlast, List.append_assoc]
    rfl

/-! ## The normal form -/

/-- **The normal form of a text.** The lines that are not blank are those of the text, cut at their
ends and in their order; before the first one stands no blank line, and between two of them stand
the blank lines that the text has there, up to two. No line ends with white space, and never are
there more than two blank lines together. The text starts with a line that is not blank and ends
with one and a line feed; if there is none, the line feed is all of the text. A text in normal form
is its own normal form. -/
theorem tidy_settled (t : String) :
    spaced 0 (rows (tidy t)) = settle (spaced 0 (rows t)) ∧
      ((rows (tidy t)).filter fun l => !isBlankLine l) =
        ((rows t).filter fun l => !isBlankLine l).map trimEnd ∧
      (∀ l ∈ rows (tidy t), trimEnd l = l) ∧
      (∀ run, run <:+: rows (tidy t) → (∀ l ∈ run, isBlankLine l = true) →
        run.length ≤ mostBlank) ∧
      (tidy t = "\n" ↔ ∀ l ∈ rows t, isBlankLine l = true) ∧
      (tidy t = "\n" ∨ ∃ first last before rest,
        rows (tidy t) = first :: rest ∧ rows (tidy t) = before ++ [last, []] ∧
          isBlankLine first = false ∧ isBlankLine last = false) ∧
      tidy (tidy t) = tidy t := by
  have hsettled := isSettled_settle_spaced t
  have hpage := rows_tidy t
  refine ⟨spaced_tidy t, ?_, ?_, ?_, tidy_eq_feed_iff, ?_, tidy_tidy t⟩
  · exact written_tidy t
  · rw [hpage]
    exact fun l hl => trimEnd_of_mem_page hsettled hl
  · rw [hpage]
    exact fun run hrun hblank => length_le_of_infix_page hsettled hrun hblank
  · rw [hpage]
    by_cases hnil : spaced 0 (rows t) = []
    · exact Or.inl (tidy_eq_feed_iff.mpr (spaced_eq_nil_iff.mp hnil))
    · exact Or.inr (page_ends hsettled (mt settle_eq_nil_iff.mp hnil))

/-- Two lines with white space at their ends, a blank line before and three between them. -/
theorem twoLines_settled :
    spaced 0 (rows "\nval x \n\n \n\nval y\t") = [(1, "val x ".toList), (3, "val y\t".toList)] ∧
      spaced 0 (rows (tidy "\nval x \n\n \n\nval y\t")) =
        [(0, "val x".toList), (2, "val y".toList)] ∧
      [[], []] <:+: rows (tidy "\nval x \n\n \n\nval y\t") ∧
      ([[], []] : List (List Char)).length ≤ mostBlank ∧
      tidy (tidy "\nval x \n\n \n\nval y\t") = tidy "\nval x \n\n \n\nval y\t" := by
  obtain ⟨hspaced, _, _, hrun, _, _, hagain⟩ := tidy_settled "\nval x \n\n \n\nval y\t"
  have hpage : rows (tidy "\nval x \n\n \n\nval y\t") =
      ["val x".toList] ++ [[], []] ++ ["val y".toList, []] := by rw [rows_tidy]; rfl
  have hinfix : [[], []] <:+: rows (tidy "\nval x \n\n \n\nval y\t") := ⟨_, _, hpage.symm⟩
  exact ⟨rfl, hspaced, hinfix, hrun _ hinfix (by decide), hagain⟩

end Text
end ClassModel
