import ClassModel.Ascending
import ClassModel.Generator.Basic
import ClassModel.Settings.Load

/-!
# `Registry` — languages by name

A registry knows generators under primary names and under aliases, which point to primary names.
All names are compared in lower case. Registering a primary name that is there changes nothing
unless it is to be replaced. A conflict of an alias ends a registration; what was registered
before the conflict stays.
-/

set_option autoImplicit false

namespace ClassModel

/-- Generators by primary name, and the primary names that aliases point to. -/
structure Registry where
  primary : Entries Language := []
  aliases : Entries String := []
  deriving Repr

namespace Registry

/-- Why a registry refuses. -/
inductive Fault
  | notGenerator
  /-- An alias that is a primary name. -/
  | aliasIsPrimary (name : String)
  /-- An alias of another language. -/
  | aliasTaken (name target : String)
  | unknownLanguage (language : String) (available : List String)
  /-- A name that points to a language that is not registered. -/
  | dangling (language : String)
  | wrongConfig (kind : String)
  | settings (f : Settings.Fault)
  deriving DecidableEq, Repr

/-- The wording of a fault. -/
def Fault.message : Fault → String
  | .notGenerator => "Generator class must inherit from CodeGenerator"
  | .aliasIsPrimary name => s!"Alias '{name}' conflicts with existing primary language"
  | .aliasTaken name target => s!"Alias '{name}' already points to '{target}'"
  | .unknownLanguage language available =>
    s!"No generator registered for language: {language}. Available: " ++
      ", ".intercalate available
  | .dangling language => language
  | .wrongConfig kind => s!"Invalid config type: <class '{kind}'>"
  | .settings f => f.message

/-- The primary names, in ascending order. -/
def languages (r : Registry) : List String := ascendingTexts r.primary.keys

/-- Adds aliases of a language up to the first conflict. -/
def addAliases (language : String) (replace : Bool) (r : Registry) :
    List String → Registry × Option Fault
  | [] => (r, none)
  | name :: rest =>
    let key := Text.lower name
    if key = language then r.addAliases language replace rest
    else if !replace && r.primary.has key then (r, some (.aliasIsPrimary name))
    else if !replace && (r.aliases.getD key language) != language then
      (r, some (.aliasTaken name (r.aliases.getD key language)))
    else addAliases language replace { r with aliases := r.aliases.set key language } rest

/-- Registers a generator, `none` being something that is no generator. -/
def register (r : Registry) (language : String) (generator : Option Language)
    (aliases : List String) (replace : Bool) : Registry × Option Fault :=
  match generator with
  | none => (r, some .notGenerator)
  | some g =>
    let key := Text.lower language
    if r.primary.has key && !replace then (r, none)
    else addAliases key replace { r with primary := r.primary.set key g } aliases

/-- Removes a language and the aliases that point to it. -/
def unregister (r : Registry) (language : String) : Registry :=
  let key := Text.lower language
  ⟨r.primary.erase key, r.aliases.filter fun a => a.2 != key⟩

/-- The primary name behind a name. -/
def resolve (r : Registry) (language : String) : Except Fault String :=
  let key := Text.lower language
  if r.primary.has key then .ok key
  else
    match r.aliases.get? key with
    | some target => .ok target
    | none => .error (.unknownLanguage language r.languages)

/-- The generator behind a name. -/
def generatorOf (r : Registry) (language : String) : Except Fault Language :=
  match r.resolve language with
  | .error e => .error e
  | .ok key =>
    match r.primary.get? key with
    | some g => .ok g
    | none => .error (.dangling key)

/-- Is the name a primary name or an alias? -/
def isSupported (r : Registry) (language : String) : Bool :=
  let key := Text.lower language
  r.primary.has key || r.aliases.has key

/-- The aliases that point to a primary name, in ascending order. -/
def aliasesOf (r : Registry) (language : String) : List String :=
  ascendingTexts ((r.aliases.filter fun a => a.2 = Text.lower language).map (·.1))

/-- The settings for a primary name: the text names a file, an object holds overrides. -/
def settingsFor (files : Files.Tree) (primary : String) (config : Json) :
    Except Fault Settings :=
  let load (overrides file : Json) : Except Fault Settings :=
    match Settings.load files (.str primary) overrides file with
    | .ok s => .ok s
    | .error f => .error (.settings f)
  match config with
  | .null => load .null .null
  | .str file => load .null (.str file)
  | .obj es => load (.obj es) .null
  | j => .error (.wrongConfig j.kindName)

/-- A generator for a name, with settings. -/
def create (r : Registry) (files : Files.Tree) (language : String) (config : Json) :
    Except Fault Generator :=
  match r.resolve language with
  | .error e => .error e
  | .ok primary =>
    match r.primary.get? primary with
    | none => .error (.dangling primary)
    | some g =>
      match settingsFor files primary config with
      | .error e => .error e
      | .ok settings => .ok ⟨g, settings⟩

/-- What is known about a language. -/
structure Listing where
  generator : Language
  aliases : List String
  deriving DecidableEq, Repr

/-- What is known about the language of a name. -/
def listing (r : Registry) (language : String) : Except Fault Listing :=
  match r.resolve language with
  | .error e => .error e
  | .ok primary =>
    match r.generatorOf primary with
    | .error e => .error e
    | .ok g => .ok ⟨g, r.aliasesOf primary⟩

/-- The registry with all target languages and their aliases. -/
def bundled : Registry :=
  Language.all.foldl (fun r l => (r.register l.name (some l) l.aliases false).1) {}

end Registry

end ClassModel
