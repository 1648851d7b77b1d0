import ClassModel.Json.Parser
import ClassModel.Template.Basic
import ClassModel.Text.Escape

/-!
# `Template.Quoted` — texts between quotes in a slot

A text stands between two quotes of a kind. A backslash starts an escape: a letter for a control
character, a code point in hexadecimal or octal digits, a quote or a backslash, or nothing for a
line end. An unknown escape is text, backslash included; so is one of a character beyond ASCII,
which then stands for its own escape.
-/

set_option autoImplicit false

namespace ClassModel
namespace Template

/-- Reads up to a quote that no backslash takes, and gives what is before and after it. -/
def readQuoted (quote : Char) : List Char → Option (List Char × List Char)
  | [] => none
  | '\\' :: c :: rest => (readQuoted quote rest).map fun (cs, rest) => ('\\' :: c :: cs, rest)
  | c :: rest =>
    if c = quote then some ([], rest)
    else (readQuoted quote rest).map fun (cs, rest) => (c :: cs, rest)

/-- The character that a backslash and a letter stand for. -/
def letterEscape? : Char → Option Char
  | '\\' => some '\\'
  | '\'' => some '\''
  | '"' => some '"'
  | 'a' => some '\x07'
  | 'b' => some '\x08'
  | 'f' => some '\x0c'
  | 'n' => some '\n'
  | 'r' => some '\r'
  | 't' => some '\t'
  | 'v' => some '\x0b'
  | _ => none

/-- The number of hexadecimal digits after a backslash and a letter, and what is said if there are
fewer. -/
def codeEscape? : Char → Option (Nat × String)
  | 'x' => some (2, "truncated \\xXX escape")
  | 'u' => some (4, "truncated \\uXXXX escape")
  | 'U' => some (8, "truncated \\UXXXXXXXX escape")
  | _ => none

/-- The number that hexadecimal digits spell; none if another character is among them. -/
def hexNumber? (cs : List Char) : Option Nat :=
  cs.foldl (fun n c => n.bind fun n => (Json.hexValue? c).map (n * 16 + ·)) (some 0)

/-- The number that octal digits spell. -/
def octalNumber (cs : List Char) : Nat := cs.foldl (fun n c => n * 8 + (c.toNat - 48)) 0

/-- Is the character an octal digit? -/
def isOctal (c : Char) : Bool := '0' ≤ c && c ≤ '7'

/-- Reads an escape after its backslash: what it stands for, and what follows it. -/
def readEscape (c : Char) (rest : List Char) : Except Reason (List Char × List Char) :=
  match letterEscape? c, codeEscape? c with
  | some x, _ => .ok ([x], rest)
  | none, some (digits, problem) =>
    match hexNumber? (rest.take digits) with
    | some n =>
      if (rest.take digits).length < digits then .error (.badEscape problem)
      else if 0x10FFFF < n then .error (.badEscape "illegal Unicode character")
      else .ok ([Json.unitChar n], rest.drop digits)
    | none => .error (.badEscape problem)
  | none, none =>
    if c = '\n' then .ok ([], rest)
    else if isOctal c then
      let more := (rest.take 2).takeWhile isOctal
      .ok ([Json.unitChar (octalNumber (c :: more))], rest.drop more.length)
    else if c = 'N' then .error (.badEscape "malformed \\N character escape")
    else .ok (if c.toNat < 0x80 then ['\\', c] else Text.escapedBeyond c, rest)

/-- Reads the escapes of a text; `fuel` is at least the number of characters. -/
def unescapeFrom : Nat → List Char → Except Reason (List Char)
  | 0, _ => .ok []
  | _ + 1, [] => .ok []
  | fuel + 1, '\\' :: c :: rest =>
    match readEscape c rest with
    | .error e => .error e
    | .ok (shown, rest) => (unescapeFrom fuel rest).map (shown ++ ·)
  | fuel + 1, c :: rest => (unescapeFrom fuel rest).map (c :: ·)

/-- The text that stands between quotes. -/
def unescape (cs : List Char) : Except Reason String :=
  (unescapeFrom cs.length cs).map .ofList

end Template
end ClassModel
