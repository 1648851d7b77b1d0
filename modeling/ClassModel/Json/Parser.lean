import ClassModel.Json.Basic

/-!
# `Json.Parser` — reading a JSON text

A reader that says what it expected and where. It takes `NaN`, `Infinity` and `-Infinity` for
numbers, refuses control characters in a text, and refuses a whole number of more than 4300
digits. How deep lists and objects may stand inside each other depends on what the reader runs on,
so that is left to those who use it. A repeated key keeps its first place and takes its last value.

Every step that goes on consumes at least one character, so the length of the text bounds the
depth of the recursion; `parse` supplies that bound.
-/

set_option autoImplicit false

namespace ClassModel
namespace Json

/-- What is wrong with a text that is no JSON. -/
inductive Problem
  | expectingValue
  | expectingKey
  | expectingColon
  | expectingComma
  | extraData
  | unterminatedString
  | controlCharacter
  | badEscape
  | badUnicodeEscape
  | byteOrderMark
  deriving DecidableEq, Repr

/-- The wording of a problem. -/
def Problem.message : Problem → String
  | .expectingValue => "Expecting value"
  | .expectingKey => "Expecting property name enclosed in double quotes"
  | .expectingColon => "Expecting ':' delimiter"
  | .expectingComma => "Expecting ',' delimiter"
  | .extraData => "Extra data"
  | .unterminatedString => "Unterminated string starting at"
  | .controlCharacter => "Invalid control character at"
  | .badEscape => "Invalid \\escape"
  | .badUnicodeEscape => "Invalid \\uXXXX escape"
  | .byteOrderMark => "Unexpected UTF-8 BOM (decode using utf-8-sig)"

/-- Why a text is not read: it is no JSON, from a position on; or a whole number in it has too many
digits; or it has too many levels. -/
inductive ParseError
  | malformed (problem : Problem) (position : Nat)
  | integerTooLong
  | tooDeep
  deriving DecidableEq, Repr

/-- The line of a position, counted from one. -/
def lineOf (cs : List Char) (position : Nat) : Nat := (cs.take position).count '\n' + 1

/-- The column of a position in its line, counted from one. -/
def columnOf (cs : List Char) (position : Nat) : Nat :=
  ((cs.take position).reverse.takeWhile (· ≠ '\n')).length + 1

/-- The characters still to be read, and how many have been. -/
structure Cursor where
  rest : List Char
  position : Nat

/-- Blanks between the parts of a JSON text. -/
def isSpace (c : Char) : Bool := c = ' ' || c = '\t' || c = '\n' || c = '\r'

/-- The cursor after blanks. -/
def Cursor.skip (c : Cursor) : Cursor :=
  ⟨c.rest.dropWhile isSpace, c.position + (c.rest.takeWhile isSpace).length⟩

/-- The cursor after `n` characters. -/
def Cursor.advance (c : Cursor) (n : Nat) : Cursor := ⟨c.rest.drop n, c.position + n⟩

/-- The value of a hexadecimal digit. -/
def hexValue? (c : Char) : Option Nat :=
  if '0' ≤ c ∧ c ≤ '9' then some (c.toNat - 48)
  else if 'a' ≤ c ∧ c ≤ 'f' then some (c.toNat - 87)
  else if 'A' ≤ c ∧ c ≤ 'F' then some (c.toNat - 55)
  else none

/-- The value of four hexadecimal digits. -/
def hexValue4? (a b c d : Char) : Option Nat := do
  some ((((← hexValue? a) * 16 + (← hexValue? b)) * 16 + (← hexValue? c)) * 16 + (← hexValue? d))

/-- The character that a backslash and a letter stand for. -/
def simpleEscape? : Char → Option Char
  | '"' => some '"'
  | '\\' => some '\\'
  | '/' => some '/'
  | 'b' => some '\x08'
  | 'f' => some '\x0c'
  | 'n' => some '\n'
  | 'r' => some '\r'
  | 't' => some '\t'
  | _ => none

/-- Is the unit the first of a pair that stands for one character? -/
def isHighSurrogate (u : Nat) : Bool := 0xD800 ≤ u && u < 0xDC00

/-- Is the unit the second of a pair? -/
def isLowSurrogate (u : Nat) : Bool := 0xDC00 ≤ u && u < 0xE000

/-- The character of a 16-bit unit that stands alone; half a pair becomes the replacement
character. -/
def unitChar (u : Nat) : Char :=
  if isHighSurrogate u || isLowSurrogate u then '\uFFFD' else Char.ofNat u

/-- Reads the escape whose backslash stands at position `p`, given the characters after the
backslash: the character it stands for and how many characters it takes after the backslash. The
text's opening quote stands at `start`. Two escapes that are a pair of units are one character. -/
def readEscape (start p : Nat) : List Char → Except ParseError (Char × Nat)
  | [] => .error (.malformed .unterminatedString start)
  | 'u' :: a :: b :: c :: d :: more@(_ :: _) =>
    match hexValue4? a b c d with
    | none => .error (.malformed .badUnicodeEscape (p + 1))
    | some high =>
      match isHighSurrogate high, more with
      | true, '\\' :: 'u' :: a' :: b' :: c' :: d' :: _ :: _ =>
        match hexValue4? a' b' c' d' with
        | none => .error (.malformed .badUnicodeEscape (p + 7))
        | some low =>
          if isLowSurrogate low then
            .ok (Char.ofNat (0x10000 + (high - 0xD800) * 0x400 + (low - 0xDC00)), 11)
          else .ok (unitChar high, 5)
      | _, _ => .ok (unitChar high, 5)
  | 'u' :: _ => .error (.malformed .badUnicodeEscape (p + 1))
  | c :: _ =>
    match simpleEscape? c with
    | some x => .ok (x, 1)
    | none => .error (.malformed .badEscape p)

/-- Reads the rest of a text whose opening quote stands at `start`. The next `skip` characters
belong to an escape that has been read; the characters read so far are given in reverse. -/
def readString (start : Nat) : Nat → Nat → List Char → List Char →
    Except ParseError (String × Cursor)
  | _, _, _, [] => .error (.malformed .unterminatedString start)
  | skip + 1, p, acc, _ :: rest => readString start skip (p + 1) acc rest
  | 0, p, acc, c :: rest =>
    if c = '"' then .ok (.ofList acc.reverse, ⟨rest, p + 1⟩)
    else if c = '\\' then
      match readEscape start p rest with
      | .error e => .error e
      | .ok (x, taken) => readString start taken (p + 1) (x :: acc) rest
    else if c.toNat ≤ 0x1F then .error (.malformed .controlCharacter p)
    else readString start 0 (p + 1) (c :: acc) rest

/-- The number that decimal digits stand for. -/
def digitsValue (ds : List Char) : Nat := ds.foldl (fun n d => n * 10 + (d.toNat - 48)) 0

/-- A point and digits, if digits follow the point. -/
def readFraction : List Char → Option (List Char)
  | '.' :: rest => let ds := rest.takeWhile Char.isDigit; if ds.isEmpty then none else some ds
  | _ => none

/-- The exponent's characters and value, if digits follow its mark and sign. -/
def readExponent : List Char → Option (Nat × Int)
  | mark :: rest =>
    if mark = 'e' ∨ mark = 'E' then
      let (signs, sign, rest) :=
        match rest with
        | '-' :: rest => (1, (-1 : Int), rest)
        | '+' :: rest => (1, 1, rest)
        | rest => (0, 1, rest)
      let ds := rest.takeWhile Char.isDigit
      if ds.isEmpty then none else some (1 + signs + ds.length, sign * digitsValue ds)
    else none
  | [] => none

/-- The most digits of a whole number. -/
def mostDigits : Nat := 4300

/-- Reads a number. -/
def readNumber (c : Cursor) : Except ParseError (Json × Cursor) :=
  let negative := c.rest.head? = some '-'
  let afterSign := c.advance (if negative then 1 else 0)
  let whole :=
    match afterSign.rest with
    | '0' :: _ => ['0']
    | rest => rest.takeWhile Char.isDigit
  if whole.isEmpty then .error (.malformed .expectingValue c.position)
  else
    let afterWhole := afterSign.advance whole.length
    let fraction := readFraction afterWhole.rest
    let afterFraction := afterWhole.advance ((fraction.map (·.length + 1)).getD 0)
    let exponent := readExponent afterFraction.rest
    let after := afterFraction.advance ((exponent.map (·.1)).getD 0)
    if fraction.isNone ∧ exponent.isNone then
      if mostDigits < whole.length then .error .integerTooLong
      else
        let n : Int := digitsValue whole
        .ok (.int (if negative then -n else n), after)
    else
      let places := fraction.getD []
      .ok (.float (.ofDecimal negative (digitsValue (whole ++ places))
        ((exponent.map (·.2)).getD 0 - places.length)), after)

/-- The values written as a word. -/
def words : List (String × Json) := [
  ("null", .null), ("true", .bool true), ("false", .bool false),
  ("NaN", .float .nan), ("Infinity", .float (.infinite false)),
  ("-Infinity", .float (.infinite true))]

/-- Reads a word, or else a number. -/
def readPlain (c : Cursor) : Except ParseError (Json × Cursor) :=
  match words.find? fun w => w.1.toList.isPrefixOf c.rest with
  | some (w, v) => .ok (v, c.advance w.length)
  | none => readNumber c

mutual

/-- Reads a value in which there may be so many levels. -/
def readValue (levels : Nat) : Nat → Cursor → Except ParseError (Json × Cursor)
  | 0, c => .error (.malformed .expectingValue c.position)
  | fuel + 1, c =>
    match c.rest with
    | '"' :: rest => do
      let (s, c) ← readString c.position 0 (c.position + 1) [] rest
      .ok (.str s, c)
    | '\x7b' :: _ =>
      let c := (c.advance 1).skip
      if levels = 0 then .error .tooDeep
      else
        match c.rest with
        | '\x7d' :: _ => .ok (.obj [], c.advance 1)
        | _ => readMembers (levels - 1) fuel c []
    | '[' :: _ =>
      let c := (c.advance 1).skip
      if levels = 0 then .error .tooDeep
      else
        match c.rest with
        | ']' :: _ => .ok (.arr [], c.advance 1)
        | _ => readItems (levels - 1) fuel c []
    | _ => readPlain c

/-- Reads the members of an object from a key on, after those read so far. -/
def readMembers (levels : Nat) : Nat → Cursor → Entries Json → Except ParseError (Json × Cursor)
  | 0, c, _ => .error (.malformed .expectingKey c.position)
  | fuel + 1, c, members =>
    match c.rest with
    | '"' :: rest => do
      let (key, c) ← readString c.position 0 (c.position + 1) [] rest
      let c := c.skip
      match c.rest with
      | ':' :: _ => do
        let (v, c) ← readValue levels fuel (c.advance 1).skip
        let c := c.skip
        let members := members.set key v
        match c.rest with
        | '\x7d' :: _ => .ok (.obj members, c.advance 1)
        | ',' :: _ => readMembers levels fuel (c.advance 1).skip members
        | _ => .error (.malformed .expectingComma c.position)
      | _ => .error (.malformed .expectingColon c.position)
    | _ => .error (.malformed .expectingKey c.position)

/-- Reads the items of a list from an item on, after those read so far, given in reverse. -/
def readItems (levels : Nat) : Nat → Cursor → List Json → Except ParseError (Json × Cursor)
  | 0, c, _ => .error (.malformed .expectingValue c.position)
  | fuel + 1, c, items => do
    let (v, c) ← readValue levels fuel c
    let c := c.skip
    match c.rest with
    | ']' :: _ => .ok (.arr (v :: items).reverse, c.advance 1)
    | ',' :: _ => readItems levels fuel (c.advance 1).skip (v :: items)
    | _ => .error (.malformed .expectingComma c.position)

end

/-- Reads a whole text as one value. There may be so many levels of lists and objects inside each
other; without a bound there may be any number. -/
def parse (levels : Option Nat) (text : String) : Except ParseError Json := do
  let cs := text.toList
  if cs.head? = some '\uFEFF' then .error (.malformed .byteOrderMark 0)
  let (v, c) ← readValue (levels.getD cs.length) (cs.length + 1) (Cursor.skip ⟨cs, 0⟩)
  let c := c.skip
  if c.rest.isEmpty then .ok v else .error (.malformed .extraData c.position)

/-- A problem and its place: line, column, and the number of characters before it. -/
def Problem.located (problem : Problem) (text : String) (position : Nat) : String :=
  let cs := text.toList
  s!"{problem.message}: line {lineOf cs position} column {columnOf cs position} " ++
    s!"(char {position})"

end Json
end ClassModel
