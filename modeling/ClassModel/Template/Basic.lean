import ClassModel.Identifier.Case
import ClassModel.Json.Print
import ClassModel.Text.Margin

/-!
# `Template` — texts with slots for values

A template is text with slots. A slot names a variable and passes its value through filters: cases
of names, an indent, a comment mark. Some names stand for constants and cannot be variables; some
others stand for things of the templates' own unless a variable has the name.

A slot for a name that stands for nothing is a fault, and so is a case of something that is no text;
everything else is written as messages show it.
-/

set_option autoImplicit false

namespace ClassModel
namespace Template

/-- What a name stands for. -/
inductive Value
  | json (j : Json)
  /-- A kind of values, by its full name. -/
  | kind (name : String)
  /-- A value of some kind that has nothing but a look. -/
  | thing (kind look : String)
  deriving Repr

/-- A value as it is written. -/
def Value.display : Value → String
  | .json j => j.display
  | .kind name => s!"<class '{name}'>"
  | .thing _ look => look

/-- A value as the subject of a complaint. -/
def Value.subject : Value → String
  | .json j => s!"'{j.kindName}' object"
  | .kind name =>
    let last : String := .ofList (Text.afterLast ['.'] name.toList)
    s!"type object '{last}'"
  | .thing k _ => s!"'{k}' object"

/-- What a slot does to a value. An argument is whatever the template gives. -/
inductive Filter
  | case (c : Identifier.NameCase)
  | indent (blanks : Json)
  | comment (mark : Json)
  deriving Repr

/-- A piece of a template. -/
inductive Part
  | text (s : String)
  | slot (name : String) (filters : List Filter)
  deriving Repr

/-- Why a template is not rendered. -/
inductive Reason
  /-- There is no such template. -/
  | missing (template : String)
  /-- The name stands for nothing. -/
  | undefinedName (name : String)
  /-- A case of a value that is no text. -/
  | noCase (subject : String)
  /-- Blanks that are not counted by a whole number. -/
  | noCount (kind : String)
  /-- A number of blanks that no row has. -/
  | row (fault : Text.RowFault)
  /-- A variable that the templates keep for themselves. -/
  | keptName
  /-- There is no such filter. -/
  | noFilter (name : String)
  /-- An escape in a quoted text that cannot be read. -/
  | badEscape (problem : String)
  /-- A slot without a name. -/
  | emptySlot
  /-- A slot that cannot be read. -/
  | unreadable
  deriving DecidableEq, Repr

/-- The wording of a reason. -/
def Reason.message : Reason → String
  | .missing template => template
  | .undefinedName name => s!"'{name}' is undefined"
  | .noCase subject => s!"{subject} has no attribute 'replace'"
  | .noCount kind => s!"can't multiply sequence by non-int of type '{kind}'"
  | .row .noIndex => "cannot fit 'int' into an index-sized integer"
  | .row .noRoom => ""
  | .keptName => "Template.render() got multiple values for argument 'self'"
  | .noFilter name => s!"No filter named '{name}'."
  | .badEscape problem => problem
  | .emptySlot => "Expected an expression, got 'end of print statement'"
  | .unreadable => "unreadable slot"

/-! ## Names -/

/-- The constants. -/
def constants : List (String × Json) := [
  ("true", .bool true), ("True", .bool true), ("false", .bool false), ("False", .bool false),
  ("none", .null), ("None", .null)]

/-- The name of the template itself, which is no variable. -/
def ownName : String := "self"

/-- What names stand for that are no variables. -/
def globals : List (String × Value) := [
  ("range", .kind "range"), ("dict", .kind "dict"), ("cycler", .kind "jinja2.utils.Cycler"),
  ("joiner", .kind "jinja2.utils.Joiner"), ("namespace", .kind "jinja2.utils.Namespace"),
  ("lipsum", .thing "function" "<function generate_lorem_ipsum>")]

/-- Where a template is rendered: its name, and the values of variables. -/
structure Scope where
  template : String
  values : Entries Json
  deriving Repr

/-- What a name stands for. -/
def Scope.value? (s : Scope) (name : String) : Option Value :=
  if name = ownName then
    some (.thing "TemplateReference" s!"<TemplateReference {Text.quoted s.template}>")
  else
    match constants.lookup name, s.values.get? name with
    | some j, _ | none, some j => some (.json j)
    | none, none => globals.lookup name

/-! ## Rendering -/

/-- The value after a filter. -/
def Filter.apply (value : Value) : Filter → Except Reason Value
  | .case c =>
    match value with
    | .json (.str s) => .ok (.json (.str (Identifier.convert s c)))
    | v => .error (.noCase v.subject)
  | .indent blanks =>
    let indented (indent : String) : Value := .json (.str (Text.beforeLines indent value.display))
    match blanks with
    | .int n => ((Text.blankRow n).mapError .row).map indented
    | .bool b => .ok (indented (Text.blanks (if b then 1 else 0)))
    | j => .error (.noCount j.kindName)
  | .comment mark => .ok (.json (.str (Text.commentLines mark.display value.display)))

/-- The value after several filters. -/
def applyAll (value : Value) : List Filter → Except Reason Value
  | [] => .ok value
  | f :: rest =>
    match f.apply value with
    | .error e => .error e
    | .ok value => applyAll value rest

/-- The text of a piece. -/
def Part.render (scope : Scope) : Part → Except Reason String
  | .text s => .ok s
  | .slot name filters =>
    match scope.value? name with
    | none => .error (.undefinedName name)
    | some value => (applyAll value filters).map (·.display)

/-- The text of pieces one after the other. -/
def renderParts (scope : Scope) : List Part → Except Reason String
  | [] => .ok ""
  | p :: rest =>
    match p.render scope with
    | .error e => .error e
    | .ok s => (renderParts scope rest).map (s ++ ·)

end Template
end ClassModel
