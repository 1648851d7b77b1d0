import ClassModel.Text.Escape
import ClassModel.Text.Layout
import ClassModel.Text.Margin

/-!
# `Identifier.Pattern` — texts with slots for a name

A pattern says how a name that collides with a reserved word is written. A slot `{}` stands for the
name, and a doubled brace for the brace. A slot may be numbered; there is one name, so its number
is zero. Numbered and plain slots do not mix. After the number a slot may ask for a part of the
name, after an exclamation mark for a quoted form of it, and after a colon for a layout, which may
hold slots of its own.

A pattern is read while it is filled: what is wrong with it behind a slot that cannot be filled is
not looked at.
-/

set_option autoImplicit false

namespace ClassModel
namespace Identifier

/-- Why a pattern is not filled. -/
inductive PatternFault
  /-- Braces that do not pair, slots of both kinds, or a layout that is none. -/
  | malformed
  /-- A slot for a second name, or for a character that the name does not have. -/
  | beyond
  /-- A slot for something that is not there. -/
  | unknown (key : String)
  /-- A property that the value does not have. -/
  | noProperty
  /-- A part of a value that has none of that kind, or a layout for what is no text. -/
  | wrongKind
  /-- A field with more room than a memory has. -/
  | noRoom
  deriving DecidableEq, Repr

namespace Pattern

/-- What a slot shows. -/
inductive Value
  | text (cs : List Char)
  /-- A kind of values, by its name. -/
  | kind (name : String)
  deriving DecidableEq, Repr

/-- The slots read so far: none, plain ones (how many), or numbered ones. -/
inductive Slots
  | none
  | plain (count : Nat)
  | numbered
  deriving DecidableEq, Repr

/-! ## What a slot says -/

/-- A slot: the value it asks for, the quoted form, the layout, and what follows it. -/
structure Slot where
  name : List Char
  form : Option Char := none
  layout : List Char := []
  rest : List Char
  deriving Repr

/-- Reads up to the brace, the colon or the exclamation mark that ends the name of a slot, and that
character. What stands in brackets is passed over. -/
def readName (bracketed : Bool) : List Char → Option (List Char × Char × List Char)
  | [] => none
  | c :: rest =>
    let go (bracketed : Bool) := (readName bracketed rest).map fun (name, r) => (c :: name, r)
    if bracketed then go (c ≠ ']')
    else if c = '\x7b' then none
    else if c = '\x7d' ∨ c = ':' ∨ c = '!' then some ([], c, rest)
    else go (c = '[')

/-- Reads up to the brace that closes a slot, past the braces that pair inside it. -/
def readLayout (depth : Nat) : List Char → Option (List Char × List Char)
  | [] => none
  | c :: rest =>
    let go (depth : Nat) := (readLayout depth rest).map fun (layout, r) => (c :: layout, r)
    if c = '\x7b' then go (depth + 1)
    else if c = '\x7d' then if depth = 0 then some ([], rest) else go (depth - 1)
    else go depth

/-- Reads a slot after its opening brace. -/
def readSlot (cs : List Char) : Option Slot := do
  let (name, ending, rest) ← readName false cs
  match ending, rest with
  | ':', rest =>
    let (layout, rest) ← readLayout 0 rest
    some ⟨name, none, layout, rest⟩
  | '!', form :: '\x7d' :: rest => some ⟨name, some form, [], rest⟩
  | '!', form :: ':' :: rest =>
    let (layout, rest) ← readLayout 0 rest
    some ⟨name, some form, layout, rest⟩
  | '!', _ => none
  | _, rest => some ⟨name, none, [], rest⟩

/-! ## The value of a slot -/

/-- The number that a text spells, `none` if it is none; a number that is too great is malformed. -/
def indexOf? (cs : List Char) : Except PatternFault (Option Nat) :=
  match Text.Layout.readNumber 0 cs with
  | none => .error .malformed
  | some (n, []) => .ok (if cs.isEmpty then none else some n)
  | some _ => .ok none

/-- A property of a value. -/
def property : Value → String → Except PatternFault Value
  | .text _, "__class__" => .ok (.kind "str")
  | .kind _, "__class__" => .ok (.kind "type")
  | .kind k, "__name__" | .kind k, "__qualname__" => .ok (.text k.toList)
  | .kind _, "__module__" => .ok (.text "builtins".toList)
  | _, _ => .error .noProperty

/-- A part of a value, by its number or by a key. -/
def item : Value → Option Nat → Except PatternFault Value
  | .text cs, some i =>
    match cs[i]? with
    | some c => .ok (.text [c])
    | none => .error .beyond
  | _, _ => .error .wrongKind

/-- Follows the properties and parts that a slot asks for; `fuel` is at least the number of
characters. -/
def follow (v : Value) : Nat → List Char → Except PatternFault Value
  | _, [] => .ok v
  | 0, _ :: _ => .error .malformed
  | fuel + 1, '.' :: rest =>
    let name := rest.takeWhile fun c => c ≠ '.' ∧ c ≠ '['
    if name.isEmpty then .error .malformed
    else
      match property v (.ofList name) with
      | .error e => .error e
      | .ok v => follow v fuel (rest.drop name.length)
  | fuel + 1, '[' :: rest =>
    let key := rest.takeWhile (· ≠ ']')
    match rest.drop key.length, indexOf? key with
    | [], _ | _, .error _ => .error .malformed
    | _ :: rest, .ok index =>
      if key.isEmpty then .error .malformed
      else
        match item v index with
        | .error e => .error e
        | .ok v => follow v fuel rest
  | _ + 1, _ :: _ => .error .malformed

/-- Looks the first part of a slot's name up: a number, nothing, or a key. -/
def look (name : List Char) (slots : Slots) (key : List Char) :
    Except PatternFault (Value × Slots) :=
  match indexOf? key with
  | .error e => .error e
  | .ok index =>
    let first (n : Nat) (slots : Slots) : Except PatternFault (Value × Slots) :=
      if n = 0 then .ok (.text name, slots) else .error .beyond
    match key.isEmpty, index, slots with
    | true, _, .none => first 0 (.plain 1)
    | true, _, .plain n => first n (.plain (n + 1))
    | true, _, .numbered | false, some _, .plain _ => .error .malformed
    | false, some n, _ => first n .numbered
    | false, none, _ => .error (.unknown (.ofList key))

/-- What a value looks like. -/
def shown : Value → List Char
  | .text cs => cs
  | .kind k => s!"<class '{k}'>".toList

/-- A quoted form of a value: as it is, between quotes, or between quotes and in ASCII. -/
def quotedForm (v : Value) : Char → Except PatternFault Value
  | 's' => .ok (.text (shown v))
  | 'r' => .ok (.text (match v with
    | .text cs => (Text.quoted (.ofList cs)).toList
    | v => shown v))
  | 'a' => .ok (.text (match v with
    | .text cs => (Text.asciiQuoted (.ofList cs)).toList
    | v => shown v))
  | _ => .error .malformed

/-- A value in its layout. -/
def laidOut (v : Value) (layout : List Char) : Except PatternFault (List Char) :=
  if layout.isEmpty then .ok (shown v)
  else
    match v, Text.Layout.ofText? layout with
    | .kind _, _ => .error .wrongKind
    | .text _, none => .error .malformed
    | .text cs, some l => if Text.mostBlanks < l.width then .error .noRoom else .ok (l.apply cs)

/-! ## Filling -/

/-- What a slot shows; `expand` fills the slots in its layout. -/
def fillSlot (expand : Slots → List Char → Except PatternFault (List Char × Slots))
    (name : List Char) (slots : Slots) (slot : Slot) : Except PatternFault (List Char × Slots) := do
  let key := slot.name.takeWhile fun c => c ≠ '.' ∧ c ≠ '['
  let (v, slots) ← look name slots key
  let v ← follow v slot.name.length (slot.name.drop key.length)
  let v ← slot.form.elim (.ok v) (quotedForm v)
  let (layout, slots) ←
    if slot.layout.contains '\x7b' then expand slots slot.layout else .ok (slot.layout, slots)
  let cs ← laidOut v layout
  .ok (cs, slots)

/-- Fills the slots of a text; `fuel` is at least the number of characters. -/
def fillFrom (expand : Slots → List Char → Except PatternFault (List Char × Slots))
    (name : List Char) : Nat → Slots → List Char → Except PatternFault (List Char × Slots)
  | 0, slots, _ => .ok ([], slots)
  | _ + 1, slots, [] => .ok ([], slots)
  | fuel + 1, slots, c :: rest =>
    if c = '\x7b' ∨ c = '\x7d' then
      if rest.head? = some c then
        (fillFrom expand name fuel slots (rest.drop 1)).map fun (cs, slots) => (c :: cs, slots)
      else if c = '\x7d' then .error .malformed
      else
        match readSlot rest with
        | none => .error .malformed
        | some slot => do
          let (shown, slots) ← fillSlot expand name slots slot
          let (cs, slots) ← fillFrom expand name fuel slots slot.rest
          .ok (shown ++ cs, slots)
    else (fillFrom expand name fuel slots rest).map fun (cs, slots) => (c :: cs, slots)

/-- Fills the slots of a text in which layouts with slots may stand inside each other so deep. -/
def fillWithin (name : List Char) :
    Nat → Slots → List Char → Except PatternFault (List Char × Slots)
  | 0, _, _ => .error .malformed
  | depth + 1, slots, cs => fillFrom (fillWithin name depth) name cs.length slots cs

/-- Fills the slots of a pattern with a name. A layout may hold slots, but no layouts with slots. -/
def fill (pattern name : String) : Except PatternFault String :=
  (fillWithin name.toList 2 .none pattern.toList).map fun (cs, _) => .ofList cs

end Pattern
end Identifier
end ClassModel
