/-!
# `Text.Utf8` — the characters that bytes stand for

A decoder that names the first place where the bytes are no text: an octet that starts no
character, one that cannot go on with it, or an end in the middle of a character. Overlong forms,
surrogates and code points above U+10FFFF are refused at their second octet.
-/

set_option autoImplicit false

namespace ClassModel
namespace Text

/-- Why bytes are no text. -/
inductive Utf8Reason
  | badStart
  | badContinuation
  | unexpectedEnd
  deriving DecidableEq, Repr

/-- The wording of a reason. -/
def Utf8Reason.message : Utf8Reason → String
  | .badStart => "invalid start byte"
  | .badContinuation => "invalid continuation byte"
  | .unexpectedEnd => "unexpected end of data"

/-- The octets that are no text: where they begin, the first of them, how many they are. -/
structure Utf8Fault where
  position : Nat
  first : UInt8
  count : Nat
  reason : Utf8Reason
  deriving DecidableEq, Repr

/-- Is the octet one that goes on with a character? -/
def isContinuation (b : UInt8) : Bool := 0x80 ≤ b && b < 0xC0

/-- The number of octets of the character that an octet starts. -/
def octetCount (b : UInt8) : Option Nat :=
  if b < 0x80 then some 1
  else if b < 0xC2 then none
  else if b < 0xE0 then some 2
  else if b < 0xF0 then some 3
  else if b < 0xF5 then some 4
  else none

/-- May the octet `next` come second after `first`? Overlong forms, surrogates and values above
the last code point end here. -/
def isSecond (first next : UInt8) : Bool :=
  isContinuation next &&
    !(first == 0xE0 && next < 0xA0) && !(first == 0xED && 0xA0 ≤ next) &&
    !(first == 0xF0 && next < 0x90) && !(first == 0xF4 && 0x90 ≤ next)

/-- The number of octets after the first that go on with the character. -/
def goodTail (first : UInt8) (tail : List UInt8) : Nat :=
  match tail with
  | [] => 0
  | second :: more =>
    if isSecond first second then 1 + (more.takeWhile isContinuation).length else 0

/-- The code point of a whole character. -/
def codePoint (first : UInt8) (tail : List UInt8) : Nat :=
  let lead :=
    if first < 0x80 then first.toNat
    else if first < 0xE0 then first.toNat - 0xC0
    else if first < 0xF0 then first.toNat - 0xE0
    else first.toNat - 0xF0
  tail.foldl (fun n b => n * 64 + (b.toNat - 0x80)) lead

/-- The characters of the octets from a position on; `skip` octets belong to a character that
has been read. -/
def decodeFrom (position skip : Nat) : List UInt8 → Except Utf8Fault (List Char)
  | [] => .ok []
  | b :: rest =>
    match skip with
    | skip + 1 => decodeFrom (position + 1) skip rest
    | 0 =>
      match octetCount b with
      | none => .error ⟨position, b, 1, .badStart⟩
      | some n =>
        let tail := rest.take (n - 1)
        let good := goodTail b tail
        if good = n - 1 then do
          let cs ← decodeFrom (position + 1) (n - 1) rest
          .ok (Char.ofNat (codePoint b tail) :: cs)
        else if good = tail.length then .error ⟨position, b, 1 + good, .unexpectedEnd⟩
        else .error ⟨position, b, 1 + good, .badContinuation⟩

/-- The characters that the octets stand for. -/
def decode (bytes : List UInt8) : Except Utf8Fault (List Char) := decodeFrom 0 0 bytes

end Text
end ClassModel
