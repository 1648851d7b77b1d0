import ClassModel.Files.JsonFile
import ClassModel.Settings.Basic
import ClassModel.Text.CaseMap
import ClassModel.Text.Identifier
import ClassModel.Json.Print

/-!
# `Settings.Load` — settings from defaults, a file and overrides

The file must be there, be named as JSON and hold an object. Settings that load can still be
suspicious: a check lists what is wrong with an indent, a file that is not there, or a package
name that the language cannot write.
-/

set_option autoImplicit false

namespace ClassModel
namespace Settings

/-- Why settings are not loaded. -/
inductive Fault
  | missing (path : String)
  | notJson (path : String)
  | malformed (path reason : String)
  | unreadable (path reason : String)
  | notObject (path : String)
  | misfit (m : Misfit)
  deriving DecidableEq, Repr

/-- The wording of a fault; a misfit has none. -/
def Fault.message : Fault → String
  | .missing path => s!"Configuration file not found: {path}"
  | .notJson path => s!"Configuration file must be JSON: {path}"
  | .malformed path reason => s!"Invalid JSON in configuration file {path}: {reason}"
  | .unreadable path reason => s!"Failed to load configuration file {path}: {reason}"
  | .notObject path => s!"Configuration file must contain a JSON object: {path}"
  | .misfit _ => ""

/-- The layer that a settings file holds. -/
def readLayer (files : Files.Tree) (path : Files.Path) : Except Fault Layer :=
  match files.has path with
  | .error m => .error (.misfit m)
  | .ok false => .error (.missing path.text)
  | .ok true =>
    if Text.lower path.suffix ≠ ".json" then .error (.notJson path.text)
    else
      match files.readJson path with
      | .error (.malformed reason) => .error (.malformed path.text reason)
      | .error (.unreadable reason) => .error (.unreadable path.text reason)
      | .error (.misfit m) => .error (.misfit m)
      | .ok j =>
        match j.entries? with
        | none => .error (.notObject path.text)
        | some es => .ok es

/-- The layer of a settings file, if one is named. -/
def fileLayer (files : Files.Tree) (file : Json) : Except Fault (Option Layer) :=
  if !file.isSet then .ok none
  else
    match Files.Path.ofJson file with
    | .error m => .error (.misfit m)
    | .ok path => (readLayer files path).map some

/-- The layer of overrides, if there are any. -/
def overrideLayer (overrides : Json) : Except Fault (Option Layer) :=
  if !overrides.isSet then .ok none
  else
    match overrides.entries? with
    | none => .error (.misfit .entries)
    | some es => .ok (some es)

/-- The settings for a language, from its defaults, a file and overrides. -/
def load (files : Files.Tree) (language overrides file : Json) : Except Fault Settings :=
  match Layer.defaultsOf language with
  | .error m => .error (.misfit m)
  | .ok base =>
    match fileLayer files file with
    | .error e => .error e
    | .ok fromFile =>
      match overrideLayer overrides with
      | .error e => .error e
      | .ok above => .ok (ofLayer ([fromFile, above].foldl (fun l o => o.elim l l.under) base))

/-! ## Suspicious settings -/

/-- Is the number less than one? -/
def isBelowOne (j : Json) : Except Misfit Bool :=
  if j.isNumber then .ok (Json.compareNumbers j (.int 1) == some .lt) else .error .order

/-- A warning about the indent. -/
def indentWarnings (s : Settings) : Except Misfit (List String) :=
  (isBelowOne s.indentSize).map fun below =>
    if below then [s!"Invalid indent_size: {s.indentSize.display}"] else []

/-- A warning about the file of provided types. -/
def providedWarnings (files : Files.Tree) (s : Settings) : Except Misfit (List String) :=
  if !s.providedTypesFile.isSet then .ok []
  else (Files.Path.ofJson s.providedTypesFile >>= files.has).map fun there =>
    if there then []
    else [s!"Provided types file not found: {s.providedTypesFile.display}"]

/-- The parts of a package name. -/
def packageParts (package : Json) : Except Misfit (List String) :=
  match package with
  | .str s => .ok ((Text.splitAt '.' s.toList).map .ofList)
  | _ => .error .parts

/-- A warning about the package name, in a language that has one. -/
def packageWarnings (s : Settings) : Option Language → Except Misfit (List String)
  | none => .ok []
  | some .kotlin => (packageParts s.packageName).map fun parts =>
    if (parts.filter (· ≠ "")).all Text.isIdentifier then []
    else [s!"Invalid Kotlin package name: {s.packageName.display}"]
  | some .python =>
    if !s.packageName.isSet then .ok []
    else (packageParts s.packageName).map fun parts =>
      if parts.all Text.isIdentifier then []
      else [s!"Invalid Python module path: {s.packageName.display}"]

/-- What is suspicious about settings for a language. -/
def warnings (files : Files.Tree) (s : Settings) (language : Option Language) :
    Except Misfit (List String) := do
  let indent ← s.indentWarnings
  let provided ← s.providedWarnings files
  let package ← s.packageWarnings language
  .ok (indent ++ provided ++ package)

end Settings
end ClassModel
