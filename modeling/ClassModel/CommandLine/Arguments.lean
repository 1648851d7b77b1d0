import ClassModel.Text.Escape

/-!
# `CommandLine.Arguments` — the flags and what a command line says

Each flag has its names, in the order in which they are looked through, and takes a value or not.
`Arguments` holds what a command line has set, `UsageFault` why it cannot be read.
-/

set_option autoImplicit false

namespace ClassModel
namespace CommandLine

/-- The flags. -/
inductive Flag
  | help
  | url
  | component
  | language
  | output
  | config
  | providedTypes
  | packageName
  | noInheritance
  | tree
  | listLanguages
  | verbose
  | logFile
  deriving DecidableEq, Repr

namespace Flag

/-- All flags, in the order in which their names are looked through. -/
def all : List Flag := [
  .help, .url, .component, .language, .output, .config, .providedTypes, .packageName,
  .noInheritance, .tree, .listLanguages, .verbose, .logFile]

/-- The names of a flag. -/
def names : Flag → List String
  | .help => ["-h", "--help"]
  | .url => ["--url"]
  | .component => ["--component", "-c"]
  | .language => ["--language", "-l"]
  | .output => ["--output", "-o"]
  | .config => ["--config"]
  | .providedTypes => ["--provided-types"]
  | .packageName => ["--package-name", "--package"]
  | .noInheritance => ["--no-inheritance"]
  | .tree => ["--tree"]
  | .listLanguages => ["--list-languages"]
  | .verbose => ["--verbose", "-v"]
  | .logFile => ["--log-file"]

/-- Does a flag take a value? -/
def takesValue : Flag → Bool
  | .help | .noInheritance | .tree | .listLanguages | .verbose => false
  | _ => true

/-- All names with their flags. -/
def named : List (String × Flag) := all.flatMap fun f => f.names.map fun n => (n, f)

/-- The flag of a name. -/
def ofName? (name : String) : Option Flag := named.lookup name

/-- A flag in messages: all its names. -/
def label (f : Flag) : String := "/".intercalate f.names

end Flag

/-- What a command line says. -/
structure Arguments where
  file : Option String := none
  url : Option String := none
  component : Option String := none
  language : Option String := some "kotlin"
  output : Option String := none
  config : Option String := none
  providedTypes : Option String := none
  packageName : Option String := none
  noInheritance : Bool := false
  tree : Bool := false
  listLanguages : Bool := false
  verbose : Bool := false
  logFile : Option String := none
  deriving DecidableEq, Repr

namespace Arguments

/-- Sets a flag that takes no value. -/
def switch (a : Arguments) : Flag → Arguments
  | .noInheritance => { a with noInheritance := true }
  | .tree => { a with tree := true }
  | .listLanguages => { a with listLanguages := true }
  | .verbose => { a with verbose := true }
  | _ => a

/-- Sets the value of a flag. -/
def set (a : Arguments) (f : Flag) (value : String) : Arguments :=
  match f with
  | .url => { a with url := some value }
  | .component => { a with component := some value }
  | .language => { a with language := some value }
  | .output => { a with output := some value }
  | .config => { a with config := some value }
  | .providedTypes => { a with providedTypes := some value }
  | .packageName => { a with packageName := some value }
  | .logFile => { a with logFile := some value }
  | _ => a

end Arguments

/-- Why a command line cannot be read. -/
inductive UsageFault
  /-- A start of several names. -/
  | ambiguous (given : String) (names : List String)
  /-- A flag without the value it takes. -/
  | needsValue (f : Flag)
  /-- A value for a flag that takes none. -/
  | surplusValue (f : Flag) (value : String)
  /-- Two sources. -/
  | conflict (label other : String)
  /-- Words that mean nothing. -/
  | unknown (words : List String)
  deriving DecidableEq, Repr

/-- The wording of a fault. -/
def UsageFault.message : UsageFault → String
  | .ambiguous given names =>
    s!"ambiguous option: {given} could match " ++ ", ".intercalate names
  | .needsValue f => s!"argument {f.label}: expected one argument"
  | .surplusValue f value => s!"argument {f.label}: ignored explicit argument {Text.quoted value}"
  | .conflict label other => s!"argument {label}: not allowed with argument {other}"
  | .unknown words => "unrecognized arguments: " ++ " ".intercalate words

/-- The line that says how the program is called. -/
def usageLine : String :=
  "usage: model-generator [file] " ++ " ".intercalate (Flag.all.map fun f =>
    "[" ++ f.label ++ (if f.takesValue then " VALUE" else "") ++ "]")

/-- The line that reports a fault. -/
def UsageFault.report (f : UsageFault) : String := "model-generator: error: " ++ f.message

end CommandLine
end ClassModel
