import ClassModel.Template.Quoted
import ClassModel.Text.Blank
import ClassModel.Text.Identifier

/-!
# `Template.Parser` — reading templates, and a set of them

A slot stands between doubled braces: a variable, then filters after vertical bars, some with an
argument in parentheses. Line ends of the template become line feeds. A set of templates renders
them by name.

Filters are looked up when all of the template has been read, the last one of a slot first.
-/

set_option autoImplicit false

namespace ClassModel
namespace Template

/-- The text without the white space at its start. -/
def skipGap (cs : List Char) : List Char := cs.dropWhile Text.isBlank

/-- Reads a word, and white space after it. -/
def readWord (cs : List Char) : Except Reason (String × List Char) :=
  let word := cs.takeWhile fun c => Text.isIdentifierContinue c
  match word with
  | first :: _ =>
    if Text.isIdentifierStart first then .ok (.ofList word, skipGap (cs.drop word.length))
    else .error .unreadable
  | [] => .error .unreadable

/-! ## Arguments -/

/-- Reads decimal digits, between which single low lines may stand. -/
def readDigits : List Char → List Char × List Char
  | '_' :: c :: rest =>
    if c.isDigit then
      let (ds, rest) := readDigits rest
      (c :: ds, rest)
    else ([], '_' :: c :: rest)
  | c :: rest =>
    if c.isDigit then
      let (ds, rest) := readDigits rest
      (c :: ds, rest)
    else ([], c :: rest)
  | [] => ([], [])

/-- Reads a whole number; a zero at its start stands alone or with other zeros. -/
def readCount (cs : List Char) : Except Reason (Int × List Char) :=
  let (digits, rest) := readDigits cs
  match cs with
  | c :: _ =>
    if !c.isDigit || (c = '0' && digits.any (· ≠ '0')) then .error .unreadable
    else .ok (Json.digitsValue digits, rest)
  | [] => .error .unreadable

/-- Reads texts between quotes that follow each other; together they are one text. `fuel` is at
least the number of characters. -/
def readTexts : Nat → List Char → Except Reason (String × List Char)
  | 0, cs => .ok ("", cs)
  | fuel + 1, cs =>
    match cs with
    | c :: rest =>
      if c = '\'' ∨ c = '"' then
        match readQuoted c rest with
        | none => .error .unreadable
        | some (inside, rest) => do
          let s ← unescape inside
          let (more, rest) ← readTexts fuel (skipGap rest)
          .ok (s ++ more, rest)
      else .ok ("", cs)
    | [] => .ok ("", cs)

/-- Reads an argument: a whole number, texts between quotes, or a constant. -/
def readArgument (cs : List Char) : Except Reason (Json × List Char) :=
  match cs with
  | [] => .error .unreadable
  | '-' :: rest => do
    let (n, rest) ← readCount (skipGap rest)
    .ok (.int (-n), rest)
  | c :: _ =>
    if c = '\'' ∨ c = '"' then (readTexts cs.length cs).map fun (s, rest) => (.str s, rest)
    else if c.isDigit then (readCount cs).map fun (n, rest) => (.int n, rest)
    else do
      let (name, rest) ← readWord cs
      match constants.lookup name with
      | some j => .ok (j, rest)
      | none => .error .unreadable

/-- Reads the parentheses after a filter, if there are any, with or without an argument in them, and
white space after them. -/
def readCall (cs : List Char) : Except Reason (Option Json × List Char) :=
  match cs with
  | '(' :: rest =>
    match skipGap rest with
    | ')' :: rest => .ok (none, skipGap rest)
    | rest => do
      let (a, rest) ← readArgument rest
      match skipGap rest with
      | ')' :: rest => .ok (some a, skipGap rest)
      | _ => .error .unreadable
  | cs => .ok (none, cs)

/-! ## Slots -/

/-- A filter by its name, and its argument. -/
structure Call where
  name : String
  argument : Option Json
  deriving Repr

/-- The filter that a call asks for. -/
def Call.filter (c : Call) : Except Reason Filter :=
  match c.name, c.argument with
  | "snake_case", none => .ok (.case .snake)
  | "camel_case", none => .ok (.case .camel)
  | "pascal_case", none => .ok (.case .pascal)
  | "snake_case", some _ | "camel_case", some _ | "pascal_case", some _ => .error .unreadable
  | "indent_code", blanks => .ok (.indent (blanks.getD (.int 4)))
  | "comment", mark => .ok (.comment (mark.getD (.str "//")))
  | name, _ => .error (.noFilter name)

/-- The filters that calls ask for; the last one is looked up first. -/
def filtersOf : List Call → Except Reason (List Filter)
  | [] => .ok []
  | c :: rest =>
    match filtersOf rest with
    | .error e => .error e
    | .ok fs => c.filter.map (· :: fs)

/-- Reads the filters of a slot up to its end; `fuel` is at least the number of characters. -/
def readCalls : Nat → List Char → Except Reason (List Call × List Char)
  | 0, _ => .error .unreadable
  | fuel + 1, cs =>
    match cs with
    | '\x7d' :: '\x7d' :: rest => .ok ([], rest)
    | '|' :: rest => do
      let (name, rest) ← readWord (skipGap rest)
      let (argument, rest) ← readCall rest
      let (calls, rest) ← readCalls fuel rest
      .ok (⟨name, argument⟩ :: calls, rest)
    | _ => .error .unreadable

/-- A piece of a template whose filters have not been looked up. -/
inductive Draft
  | text (s : String)
  | slot (name : String) (calls : List Call)
  deriving Repr

/-- The piece with its filters. -/
def Draft.part : Draft → Except Reason Part
  | .text s => .ok (.text s)
  | .slot name calls => (filtersOf calls).map (.slot name)

/-- The pieces with their filters. -/
def partsOf : List Draft → Except Reason (List Part)
  | [] => .ok []
  | d :: rest =>
    match d.part with
    | .error e => .error e
    | .ok p => (partsOf rest).map (p :: ·)

/-- The word that denies what follows it, so it names nothing. -/
def denial : String := "not"

/-- Reads a slot after its opening braces. -/
def readSlot (cs : List Char) : Except Reason (Draft × List Char) :=
  match skipGap cs with
  | '\x7d' :: '\x7d' :: _ => .error .emptySlot
  | cs => do
    let (name, rest) ← readWord cs
    let (calls, rest) ← readCalls (rest.length + 1) rest
    if name = denial then .error (if calls.isEmpty then .emptySlot else .unreadable)
    else .ok (.slot name calls, rest)

/-- Reads the pieces of a template after some text; `fuel` is at least the number of characters. -/
def readParts : Nat → List Char → List Char → Except Reason (List Draft)
  | 0, text, _ => .ok [.text (.ofList text.reverse)]
  | _ + 1, text, [] => .ok [.text (.ofList text.reverse)]
  | fuel + 1, text, c :: rest =>
    match c, rest with
    | '\x7b', '\x7b' :: rest => do
      let (slot, rest) ← readSlot rest
      let parts ← readParts fuel [] rest
      .ok (.text (.ofList text.reverse) :: slot :: parts)
    | c, rest => readParts fuel (c :: text) rest

/-- The pieces of a template. -/
def parse (s : String) : Except Reason (List Part) :=
  let cs := Text.unifyNewlines s.toList
  match readParts (cs.length + 1) [] cs with
  | .error e => .error e
  | .ok drafts => partsOf drafts

/-! ## Sets of templates -/

/-- Why a template of a set is not rendered. -/
structure Fault where
  template : String
  reason : Reason
  deriving DecidableEq, Repr

/-- The wording of a fault. -/
def Fault.message (f : Fault) : String :=
  s!"Failed to render template {f.template}: {f.reason.message}"

/-- The text of a template that is given, where variables have these values. -/
def renderText (scope : Scope) (source : String) : Except Reason String :=
  match parse source with
  | .error e => .error e
  | .ok parts => if scope.values.has ownName then .error .keptName else renderParts scope parts

/-- Renders a template of a set, given the values of variables. -/
def render (templates : Entries String) (name : String) (values : Entries Json) :
    Except Fault String :=
  match templates.get? name with
  | none => .error ⟨name, .missing name⟩
  | some source =>
    match renderText ⟨name, values⟩ source with
    | .ok s => .ok s
    | .error reason => .error ⟨name, reason⟩

end Template
end ClassModel
