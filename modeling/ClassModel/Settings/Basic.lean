import ClassModel.Json.Basic
import ClassModel.Language
import ClassModel.Misfit

/-!
# `Settings` — what a generator can be told

Settings are put together from layers: the defaults of a language, a settings file, and overrides.
A later layer replaces the values of an earlier one. The options of a language live in the object
`custom`, whose entries are merged one by one; a top-level key that is no setting becomes an option
after all layers are merged.

Values are not checked here. A setting holds what it was given, and a wrong value is found when it
is used.
-/

set_option autoImplicit false

namespace ClassModel

/-- The settings of a generator. -/
structure Settings where
  packageName : Json := .str ""
  withInheritance : Json := .bool true
  metaPrefix : Json := .str "@"
  providedTypesFile : Json := .null
  indentSize : Json := .int 4
  addComments : Json := .bool true
  /-- The options of a language. -/
  custom : Entries Json := []
  deriving Repr

/-- A layer of settings: an object. -/
abbrev Layer := Entries Json

namespace Layer

/-- The key of the object that holds the options. -/
def customKey : String := "custom"

/-- The options that a layer lists in its `custom` object, if it is one. -/
def options? (l : Layer) : Option (Entries Json) := l.get? customKey >>= Json.entries?

/-- A layer with another one above it. -/
def under (base overrides : Layer) : Layer :=
  let merged := base.merge (overrides.erase customKey)
  match overrides.options? with
  | some options => merged.set customKey (.obj ((base.options?.getD []).merge options))
  | none => merged

/-- The built-in layer of a language. -/
def defaults : Language → Layer
  | .kotlin => [("package_name", .str "com.example.model"), ("indent_size", .int 4),
      ("custom", .obj [("jackson_annotations", .bool true)])]
  | .python => [("package_name", .str ""), ("indent_size", .int 4),
      ("custom", .obj [("kw_only", .bool true), ("frozen", .bool false)])]

/-- The built-in layer for the name of a language; empty for a name without one. -/
def defaultsOf (language : Json) : Except Misfit Layer :=
  match language with
  | .str name => .ok ((Language.ofName? name).elim [] defaults)
  | j => if j.isSet && !j.isKey then .error .key else .ok []

end Layer

namespace Settings

/-- The keys of settings. -/
def keys : List String := [
  "package_name", "with_inheritance", "meta_prefix", "provided_types_file", "indent_size",
  "add_comments", Layer.customKey]

/-- The settings with the values of a layer and the given options. -/
def ofValues (l : Layer) (custom : Entries Json) : Settings :=
  let standard : Settings := {}
  { packageName := l.getD "package_name" standard.packageName
    withInheritance := l.getD "with_inheritance" standard.withInheritance
    metaPrefix := l.getD "meta_prefix" standard.metaPrefix
    providedTypesFile := l.getD "provided_types_file" standard.providedTypesFile
    indentSize := l.getD "indent_size" standard.indentSize
    addComments := l.getD "add_comments" standard.addComments
    custom := custom }

/-- The settings of a merged layer: a key that is no setting is an option. -/
def ofLayer (l : Layer) : Settings :=
  ofValues l ((l.options?.getD []).merge (l.filter fun e => !keys.contains e.1))

/-- The settings with exactly the given values, and nothing merged. -/
def ofExact (l : Layer) : Except Misfit Settings :=
  if l.any fun e => !keys.contains e.1 then .error .setting
  else
    match l.get? Layer.customKey with
    | none => .ok (ofValues l [])
    | some (.obj es) => .ok (ofValues l (Entries.ofList es))
    | some _ => .error .entries

/-- The value of an option. -/
def option (s : Settings) (key : String) (standard : Json) : Json := s.custom.getD key standard

/-- The blanks of an indent. -/
def indent (s : Settings) : Except Misfit String :=
  match s.indentSize with
  | .int n => (Text.blankRow n).mapError .row
  | .bool b => .ok (Text.blanks (if b then 1 else 0))
  | _ => .error .blanks

end Settings
end ClassModel
