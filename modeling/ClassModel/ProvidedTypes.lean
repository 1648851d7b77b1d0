import ClassModel.Files.JsonFile

/-!
# `ProvidedTypes` — qualifiers that replace others

A file of provided types holds an object that maps the qualifiers of a schema to qualifiers of
types that exist already.
-/

set_option autoImplicit false

namespace ClassModel
namespace ProvidedTypes

/-- Why provided types are not read. -/
inductive Fault
  | missing (path : String)
  | malformed (path reason : String)
  | unreadable (path reason : String)
  | notObject (path : String)
  | notText (key kind : String)
  | misfit (m : Misfit)
  deriving DecidableEq, Repr

/-- The wording of a fault; a misfit has none. -/
def Fault.message : Fault → String
  | .missing path => s!"Provided types file not found: {path}"
  | .malformed path reason => s!"Invalid JSON in provided types file {path}: {reason}"
  | .unreadable path reason => s!"Failed to read provided types file {path}: {reason}"
  | .notObject path => s!"Provided types file must contain a JSON object: {path}"
  | .notText key kind => s!"Provided type for '{key}' must be a string, got {kind}"
  | .misfit _ => ""

/-- The texts of a mapping; the first value that is no text is a fault. -/
def texts : List (String × Json) → Except Fault (Entries String)
  | [] => .ok []
  | (key, .str value) :: rest => (texts rest).map ((key, value) :: ·)
  | (key, j) :: _ => .error (.notText key j.kindName)

/-- The mapping that a file holds. -/
def read (files : Files.Tree) (path : Files.Path) : Except Fault (Entries String) :=
  match files.has path with
  | .error m => .error (.misfit m)
  | .ok false => .error (.missing path.text)
  | .ok true =>
    match files.readJson path with
    | .error (.malformed reason) => .error (.malformed path.text reason)
    | .error (.unreadable reason) => .error (.unreadable path.text reason)
    | .error (.misfit m) => .error (.misfit m)
    | .ok j =>
      match j.entries? with
      | none => .error (.notObject path.text)
      | some es => texts es

/-- The mapping of the file that a setting names; empty if it names none. -/
def ofSetting (files : Files.Tree) (file : Json) : Except Fault (Entries String) :=
  if !file.isSet then .ok []
  else
    match Files.Path.ofJson file with
    | .error m => .error (.misfit m)
    | .ok path => read files path

end ProvidedTypes
end ClassModel
