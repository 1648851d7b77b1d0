import ClassModel.Json.Parser
import ClassModel.Text.Escape
import Mathlib.Algebra.Group.Nat.Defs

/-!
# What a Python string literal denotes

A short literal between double quotes denotes a list of code points. Most characters denote
themselves and a backslash begins an escape; `\u` and `\U` denote the one code point that their
digits spell, so two of them are two code points also where they are the halves of a surrogate pair.

The literals of a module are written with an escape for every 16-bit unit outside printable ASCII.
So a literal always denotes the units of its text (`read_asciiLiteral`), and it denotes the text
itself exactly if every character is a single unit (`denotes_iff`). A character beyond U+FFFF comes
back as two surrogates.
-/

set_option autoImplicit false

namespace ClassModel
namespace PythonLiteral

/-- The number of further hexadecimal digits, of which there must be `width`, and what is left. -/
def readHex : Nat → Nat → List Char → Option (Nat × List Char)
  | 0, n, cs => some (n, cs)
  | _ + 1, _, [] => none
  | width + 1, n, c :: cs =>
    match Json.hexValue? c with
    | none => none
    | some v => readHex width (n * 16 + v) cs

/-- The number of further octal digits, of which there may be up to `width`, and what is left. -/
def readOctal : Nat → Nat → List Char → Nat × List Char
  | 0, n, cs => (n, cs)
  | _ + 1, n, [] => (n, [])
  | width + 1, n, c :: cs =>
    if '0' ≤ c ∧ c ≤ '7' then readOctal width (n * 8 + (c.toNat - 48)) cs else (n, c :: cs)

/-- The code point that a backslash and a character stand for. -/
def shortEscape? : Char → Option Nat
  | '\\' => some 0x5C
  | '\'' => some 0x27
  | '"' => some 0x22
  | 'a' => some 0x07
  | 'b' => some 0x08
  | 'f' => some 0x0C
  | 'n' => some 0x0A
  | 'r' => some 0x0D
  | 't' => some 0x09
  | 'v' => some 0x0B
  | _ => none

/-- What stands after a backslash: the code points that it denotes, and what is left. `names` knows
the characters that have a name. The end of a line is skipped, and a backslash that begins no escape
denotes itself. -/
def readEscape (names : List Char → Option Nat) : List Char → Option (List Nat × List Char)
  | [] => none
  | '\n' :: cs => some ([], cs)
  | '\r' :: '\n' :: cs => some ([], cs)
  | '\r' :: cs => some ([], cs)
  | 'x' :: cs => (readHex 2 0 cs).map fun r => ([r.1], r.2)
  | 'u' :: cs => (readHex 4 0 cs).map fun r => ([r.1], r.2)
  | 'U' :: cs => ((readHex 8 0 cs).filter fun r => r.1 < 0x110000).map fun r => ([r.1], r.2)
  | 'N' :: '{' :: cs =>
    if cs.contains '}' then
      (names (cs.takeWhile (· ≠ '}'))).map fun n => ([n], (cs.dropWhile (· ≠ '}')).tail)
    else none
  | 'N' :: _ => none
  | c :: cs =>
    match shortEscape? c with
    | some n => some ([n], cs)
    | none =>
      if '0' ≤ c ∧ c ≤ '7' then
        let r := readOctal 2 (c.toNat - 48) cs
        some ([r.1], r.2)
      else some (['\\'.toNat, c.toNat], cs)

/-- One character or escape before the closing quote. A line must not end inside the quotes. -/
def readItem (names : List Char → Option Nat) : List Char → Option (List Nat × List Char)
  | [] => none
  | '\\' :: cs => readEscape names cs
  | c :: cs => if c = '"' ∨ c = '\n' ∨ c = '\r' then none else some ([c.toNat], cs)

variable {names : List Char → Option Nat} {cs rest : List Char} {ns ms : List Nat} {c : Char}
  {s text : String}

/-- The characters after the opening quote, up to and with the closing one, denote the code
points. -/
inductive Body (names : List Char → Option Nat) : List Char → List Nat → Prop
  | close : Body names ['"'] []
  | item {cs rest : List Char} {ns ms : List Nat} :
      readItem names cs = some (ns, rest) → Body names rest ms → Body names cs (ns ++ ms)

/-- The text is a literal that denotes the code points. -/
def Denotes (names : List Char → Option Nat) (text : String) (ns : List Nat) : Prop :=
  ∃ cs, text.toList = '"' :: cs ∧ Body names cs ns

theorem Body.unique (h : Body names cs ns) (h' : Body names cs ms) : ns = ms := by
  induction h generalizing ms with
  | close =>
    cases h' with
    | close => rfl
    | item hitem _ => cases hitem
  | item hitem _ ih =>
    cases h' with
    | close => cases hitem
    | item hitem' hbody =>
      rw [hitem] at hitem'
      cases hitem'
      rw [ih hbody]

/-- A literal denotes one list of code points at most. -/
theorem Denotes.unique (h : Denotes names text ns) (h' : Denotes names text ms) : ns = ms := by
  obtain ⟨cs, hcs, hbody⟩ := h
  obtain ⟨cs', hcs', hbody'⟩ := h'
  rw [hcs] at hcs'
  cases hcs'
  exact hbody.unique hbody'

/-! ## Reading what is written -/

theorem hexValue?_hexDigit : ∀ n < 16, Json.hexValue? (Text.hexDigit n) = some n := by
  decide

theorem readHex_cons (width n : Nat) (c : Char) (cs : List Char) :
    readHex (width + 1) n (c :: cs) =
      (Json.hexValue? c).bind fun v => readHex width (n * 16 + v) cs := by
  rw [readHex]
  cases Json.hexValue? c <;> rfl

/-- The last digit is read after the others. -/
theorem readHex_succ (width n : Nat) (cs : List Char) :
    readHex (width + 1) n cs = (readHex width n cs).bind fun r => readHex 1 r.1 r.2 := by
  induction width generalizing n cs with
  | zero => rfl
  | succ width ih =>
    cases cs with
    | nil => rfl
    | cons c cs =>
      rw [readHex_cons (width + 1), readHex_cons width, Option.bind_assoc]
      congr 1
      funext v
      exact ih _ _

theorem readHex_hexDigits (width n m : Nat) (cs : List Char) :
    readHex width n (Text.hexDigits width m ++ cs) =
      some (n * 16 ^ width + m % 16 ^ width, cs) := by
  induction width generalizing m cs with
  | zero => simp [readHex, Text.hexDigits, Nat.mod_one]
  | succ width ih =>
    have hdigit := hexValue?_hexDigit (m % 16) (Nat.mod_lt m (by decide))
    have hvalue : (n * 16 ^ width + m / 16 % 16 ^ width) * 16 + m % 16 =
        n * 16 ^ (width + 1) + m % 16 ^ (width + 1) := by
      rw [Nat.pow_succ', Nat.mod_mul, Nat.add_mul, Nat.mul_assoc, Nat.mul_comm (16 ^ width) 16]
      omega
    rw [readHex_succ, Text.hexDigits, List.append_assoc, ih]
    simp [readHex, hdigit, hvalue]

/-- An escape of four digits is the code point that they spell. -/
theorem body_unit {u : Nat} (hu : u < 0x10000) (h : Body names rest ms) :
    Body names ('\\' :: 'u' :: Text.hexDigits 4 u ++ rest) (u :: ms) := by
  have hbound : u < 16 ^ 4 := by simpa using hu
  have hread := readHex_hexDigits 4 0 u rest
  rw [Nat.mod_eq_of_lt hbound] at hread
  have hitem : readItem names ('\\' :: 'u' :: Text.hexDigits 4 u ++ rest) = some ([u], rest) := by
    simp [readItem, readEscape, hread]
  exact .item hitem h

theorem units_lt (c : Char) : ∀ u ∈ Text.units c, u < 0x10000 := by
  have hc : c.toNat < 0x110000 := by
    have := c.valid
    simp only [UInt32.isValidChar, Nat.isValidChar] at this
    show c.val.toNat < _
    omega
  intro u hu
  rw [Text.units] at hu
  split at hu
  · rw [List.mem_singleton] at hu
    omega
  · simp only [List.mem_cons, List.not_mem_nil, or_false] at hu
    omega

theorem body_units {us : List Nat} (hus : ∀ u ∈ us, u < 0x10000) (h : Body names rest ms) :
    Body names ((us.flatMap fun u => '\\' :: 'u' :: Text.hexDigits 4 u) ++ rest) (us ++ ms) := by
  induction us with
  | nil => exact h
  | cons u us ih =>
    obtain ⟨hu, hus⟩ := List.forall_mem_cons.mp hus
    rw [List.flatMap_cons, List.append_assoc]
    exact body_unit hu (ih hus)

/-- **A character is written so that its units are read back.** -/
theorem body_literalChar (c : Char) (h : Body names rest ms) :
    Body names (Text.literalChar c ++ rest) (Text.units c ++ ms) := by
  by_cases hquote : c = '"'
  · subst hquote; exact .item rfl h
  by_cases hback : c = '\\'
  · subst hback; exact .item rfl h
  by_cases hfeed : c = '\n'
  · subst hfeed; exact .item rfl h
  by_cases hreturn : c = '\r'
  · subst hreturn; exact .item rfl h
  by_cases htab : c = '\t'
  · subst htab; exact .item rfl h
  by_cases hpage : c = '\x0c'
  · subst hpage; exact .item rfl h
  by_cases hbackspace : c = '\x08'
  · subst hbackspace; exact .item rfl h
  rw [Text.literalChar, if_neg hquote, if_neg hback, if_neg hfeed, if_neg hreturn, if_neg htab,
    if_neg hpage, if_neg hbackspace]
  by_cases hplain : 0x20 ≤ c.toNat ∧ c.toNat ≤ 0x7E
  · rw [if_pos hplain, Text.units, if_pos (by omega)]
    refine .item ?_ h
    simp [readItem, hquote, hfeed, hreturn]
  · rw [if_neg hplain]
    exact body_units (units_lt c) h

/-- **A literal denotes the 16-bit units of its text.** -/
theorem denotes_units (names : List Char → Option Nat) (s : String) :
    Denotes names (Text.asciiLiteral s) (s.toList.flatMap Text.units) := by
  refine ⟨s.toList.flatMap Text.literalChar ++ ['"'], by simp [Text.asciiLiteral], ?_⟩
  induction s.toList with
  | nil => exact .close
  | cons c cs ih =>
    rw [List.flatMap_cons, List.flatMap_cons, List.append_assoc]
    exact body_literalChar c ih

/-! ## When a literal denotes its text -/

/-- The code points of a text. -/
def codePoints (s : String) : List Nat := s.toList.map (·.toNat)

theorem flatMap_units_eq_iff (cs : List Char) :
    cs.flatMap Text.units = cs.map (·.toNat) ↔ ∀ c ∈ cs, c.toNat < 0x10000 := by
  induction cs with
  | nil => simp
  | cons c cs ih =>
    rw [List.flatMap_cons, List.map_cons, List.forall_mem_cons]
    by_cases hc : c.toNat < 0x10000
    · rw [Text.units, if_pos hc, List.singleton_append, List.cons.injEq]
      simp [hc, ih]
    · -- The high surrogate is below the character.
      have hlow : 0xD800 + (c.toNat - 0x10000) / 0x400 ∈ Text.units c := by simp [Text.units, hc]
      have hlt := units_lt c _ hlow
      constructor
      · intro h
        rw [Text.units, if_neg hc] at h
        have hhead : 0xD800 + (c.toNat - 0x10000) / 0x400 = c.toNat := by
          simpa using congrArg List.head? h
        omega
      · intro h
        exact absurd h.1 hc

/-- **A literal denotes its text exactly if the text has no character beyond U+FFFF.** -/
theorem denotes_iff (names : List Char → Option Nat) (s : String) :
    Denotes names (Text.asciiLiteral s) (codePoints s) ↔ ∀ c ∈ s.toList, c.toNat < 0x10000 := by
  rw [← flatMap_units_eq_iff]
  constructor
  · intro h
    exact (denotes_units names s).unique h
  · intro h
    have hunits := denotes_units names s
    rw [h] at hunits
    exact hunits

end PythonLiteral
end ClassModel
