import ClassModel.CommandLine.Notice
import ClassModel.CommandLine.Reader
import ClassModel.Console.Outline
import ClassModel.Log.Setup
import ClassModel.Registry
import ClassModel.Source.Document

/-!
# `CommandLine.Run` — what a command line does

A run reads the command line and either lists the languages or generates the code of a component:
it loads the document, makes a generator, shows the class tree if asked to, and shows the code or
writes it to a file. It gives an exit status, the lines on the console and the files after it.
A fault with a wording ends the run with a report. The others end it without one, and so does a text
that the console cannot print; what was printed and written before stays.
-/

set_option autoImplicit false

namespace ClassModel
namespace CommandLine

/-- What a run finds: files, the answer to a request, a console, and how letters in one word are
read. -/
structure Surroundings where
  files : Files.Tree := {}
  response : Source.Response
  console : Console
  joining : Joining := .strict

/-- Why a run ends early. -/
inductive Fault
  | complaint (text : String)
  | source (f : Source.Fault)
  | settings (f : Settings.Fault)
  | generator (f : Generator.Fault)
  | unwritable (path : Files.Path) (f : Files.Obstacle)
  deriving Repr

/-- Why a run ends without a report. -/
inductive Escape
  | misfit (m : Misfit)
  /-- A class that its union has no tag for. -/
  | untagged (leaf : String)
  /-- A URL whose authority cannot be one. -/
  | brokenUrl
  /-- A file that cannot be written. -/
  | obstacle (o : Files.Obstacle)
  /-- A text whose tags the console cannot make sense of. -/
  | unprintable
  deriving DecidableEq, Repr

/-- The report of a source's fault. -/
def ofSource (f : Source.Fault) : Except Escape Report :=
  match f with
  | .misfit m | .document (.misfit m) => .error (.misfit m)
  | .brokenUrl => .error .brokenUrl
  | .notObject _ _ | .noComponents _ | .document _ => .ok ⟨.document, f.message⟩
  | f => .ok ⟨.loading, f.message⟩

/-- The report of a generator's fault outside a generation. -/
def ofGenerator : Generator.Fault → Except Escape Report
  | .provided (.misfit m) | .compile (.misfit m) | .target (.misfit m) => .error (.misfit m)
  | .target (.untagged leaf) => .error (.untagged leaf)
  | .provided f => .ok ⟨.error, f.message⟩
  | .compile f => .ok ⟨.compilation, f.message⟩
  | .target (.schema f) => .ok ⟨.compilation, f.message⟩

/-- The report of a fault. -/
def Fault.report : Fault → Except Escape Report
  | .complaint text => .ok ⟨.error, text⟩
  | .source f => ofSource f
  | .settings (.misfit m) => .error (.misfit m)
  | .settings f => .ok ⟨.error, f.message⟩
  | .generator f => ofGenerator f
  | .unwritable path .missing => .ok ⟨.loading, Files.noSuchFileText path⟩
  | .unwritable _ o => .error (.obstacle o)

/-! ## Before the code -/

/-- The text of a value that counts only if it is not empty. -/
def given (value : Option String) : Option String := value.filter (· ≠ "")

/-- A value as JSON. -/
def jsonOf (value : Option String) : Json := value.elim .null .str

/-- The overrides that the flags ask for. -/
def overridesOf (a : Arguments) : Layer :=
  (given a.packageName).toList.map (fun p => ("package_name", .str p)) ++
    (given a.providedTypes).toList.map (fun p => ("provided_types_file", .str p)) ++
    (if a.noInheritance then [("with_inheritance", .bool false)] else [])

/-- A component of a loaded document, and the generator for it. -/
structure Task where
  generator : Generator
  schema : Schema
  component : schema.Id

/-- The component of a catalog. -/
def componentOf (catalog : Catalog) (name : String) :
    Except Fault ((s : Schema) × s.Id) :=
  let unknown : Fault :=
    .complaint (s!"Unknown component '{name}'. Available: " ++ ", ".intercalate catalog.keys)
  match Schema.ofCatalog catalog with
  | .error _ => .error unknown
  | .ok s =>
    match s.find? name with
    | none => .error unknown
    | some i => .ok ⟨s, i⟩

/-- The generator for a language, with the settings that the flags ask for. -/
def generatorOf (w : Surroundings) (a : Arguments) (language : Language) :
    Except Fault Generator :=
  match Settings.load w.files (.str language.name) (.obj (overridesOf a)) (jsonOf a.config) with
  | .error f => .error (.settings f)
  | .ok settings => .ok ⟨language, settings⟩

/-- The language of the flags. -/
def languageOf (a : Arguments) : Except Fault Language :=
  let name := a.language.getD ""
  match Registry.bundled.generatorOf name with
  | .ok l => .ok l
  | .error _ => .error (.complaint (s!"Unsupported language '{name}'. Supported languages: " ++
      ", ".intercalate Registry.bundled.languages))

/-- What is to be generated, checked in the order of the flags, the document and the settings. -/
def taskOf (w : Surroundings) (a : Arguments) : Except Fault Task :=
  if (given a.file).isNone && (given a.url).isNone then
    .error (.complaint "Input source required (file or --url)")
  else
    match given a.component with
    | none => .error (.complaint "--component is required for code generation")
    | some name =>
      match languageOf a with
      | .error f => .error f
      | .ok language =>
        match (Source.load w.files w.response (jsonOf a.file) (jsonOf a.url)
            Source.standardTimeout).result with
        | .error f => .error (.source f)
        | .ok (_, catalog) =>
          match componentOf catalog name with
          | .error f => .error f
          | .ok ⟨s, i⟩ =>
            match generatorOf w a language with
            | .error f => .error f
            | .ok g => .ok ⟨g, s, i⟩

/-! ## Printing -/

/-- How a run ends. -/
inductive Exit
  /-- With an exit status. -/
  | status (n : Nat)
  /-- With help. -/
  | help
  /-- With a line that reports a command line that cannot be read. -/
  | usage (line : String)
  /-- Without a report. -/
  | escape (e : Escape)
  deriving DecidableEq, Repr

/-- What a run comes to: how it ends, the lines it has printed, and the files after it. -/
structure Outcome where
  exit : Exit
  lines : List String := []
  files : Files.Tree
  deriving Repr

/-- Prints after some lines, and goes on with all the lines. The run ends where something cannot be
printed. -/
def printing (c : Console) (files : Files.Tree) (next : List String → Outcome) :
    List Console.Printable → List String → Outcome
  | [], lines => next lines
  | p :: rest, lines =>
    match c.print p with
    | none => { exit := .escape .unprintable, lines := lines, files := files }
    | some more => printing c files next rest (lines ++ more)

/-- The outcome of a run that ends well. -/
def finished (files : Files.Tree) (lines : List String) : Outcome :=
  { exit := .status 0, lines := lines, files := files }

/-- The outcome of a run that says what went wrong after some lines. -/
def failed (w : Surroundings) (lines : List String) (n : Notice) : Outcome :=
  printing w.console w.files (fun lines => { exit := .status 1, lines := lines, files := w.files })
    [w.console.notice n] lines

/-- The outcome of a run that ends with a fault after some lines. -/
def faulty (w : Surroundings) (lines : List String) (f : Fault) : Outcome :=
  match f.report with
  | .ok r => failed w lines (.report r)
  | .error e => { exit := .escape e, lines := lines, files := w.files }

/-! ## The code -/

/-- The outline of the class tree, if it is asked for. -/
def outlineFor (w : Surroundings) (a : Arguments) (t : Task) :
    Except Fault (List Console.Printable) :=
  if !a.tree then .ok []
  else
    match t.generator.classes w.files t.schema t.component none with
    | .error f => .error (.generator f)
    | .ok d =>
      match Console.outlineOf w.console.escape d with
      | .error m => .error (.generator (.compile (.misfit m)))
      | .ok o => .ok [.tree o]

/-- The table of what is known about generated code. Its values are taken as they are, tags
included. -/
def metadataTable (r : Generator.Generated) : Console.Table where
  title := "⚙️  Generation"
  frame := .blank
  columns := [{}, {}]
  rows := [
    ["language", r.language.name], ["file_extension", r.language.extension],
    ["component", r.component], ["is_union", (Json.bool r.isUnion).display],
    ["with_inheritance", r.inheritance.display], ["class_count", toString r.classCount],
    ["import_count", toString r.importCount]]

/-- The outcome of a run that has delivered code: what is known about it is printed if asked for. -/
def delivered (w : Surroundings) (a : Arguments) (r : Generator.Generated) (files : Files.Tree)
    (lines : List String) : Outcome :=
  printing w.console files (finished files) (if a.verbose then [.table (metadataTable r)] else [])
    lines

/-- The outcome of a run that has code to deliver after some lines: the code goes to the output file
if one is named, else to the console. -/
def deliver (w : Surroundings) (a : Arguments) (r : Generator.Generated) (lines : List String) :
    Outcome :=
  match given a.output with
  | none => printing w.console w.files (delivered w a r w.files) [.code r.language r.code] lines
  | some output =>
    let path := Files.Path.ofText output
    match w.files.write path r.code with
    | .error o => faulty w lines (.unwritable path o)
    | .ok files =>
      printing w.console files (delivered w a r files) [w.console.notice (.written output)] lines

/-- The outcome of a run that has generated code after some lines: warnings come first. -/
def generated (w : Surroundings) (a : Arguments) (r : Generator.Generated) (lines : List String) :
    Outcome :=
  printing w.console w.files (deliver w a r)
    (r.warnings.map fun text => w.console.notice (.warning text)) lines

/-- The outcome of a run whose generator has a fault after some lines. -/
def ungenerated (w : Surroundings) (lines : List String) (f : Generator.Fault) : Outcome :=
  match f.report? with
  | none => faulty w lines (.generator f)
  | some report => failed w lines (.failure (Generator.failureText report))

/-- The outcome of a task after some lines. -/
def perform (w : Surroundings) (a : Arguments) (t : Task) (lines : List String) : Outcome :=
  match t.generator.generate w.files t.schema t.component none with
  | .error f => ungenerated w lines f
  | .ok r => generated w a r lines

/-- Generates code. -/
def generate (w : Surroundings) (a : Arguments) : Outcome :=
  match taskOf w a with
  | .error f => faulty w [] f
  | .ok t =>
    match outlineFor w a t with
    | .error f => faulty w [] f
    | .ok ps => printing w.console w.files (perform w a t) ps []

/-! ## The whole run -/

/-- The table of the languages. -/
def languageTable : Console.Table where
  title := "📋 Supported Languages"
  frame := .rounded
  columns := [⟨"Language", false⟩, ⟨"Extension", true⟩, ⟨"Naming Strategy", true⟩,
    ⟨"Aliases", true⟩]
  hasHeader := true
  rows := Registry.bundled.languages.flatMap fun name =>
    match Registry.bundled.listing name with
    | .error _ => []
    | .ok l => [[name, l.generator.extension, l.generator.namingName,
        if l.aliases.isEmpty then Console.Style.dim.text "none" else ", ".intercalate l.aliases]]

open Console in
/-- How the program is called, in a panel. -/
def quickStart : Printable :=
  .panel "💡 Quick Start" (Style.bold.text "Usage:" ++ " model-generator " ++
    Style.dim.text "components.json" ++ " --component " ++ Style.cyan.text "NAME" ++
    " --language " ++ Style.cyan.text "LANGUAGE")

/-- The files with the log file, if one is named, and what is in its way. -/
def withLog (files : Files.Tree) (a : Arguments) : Files.Tree × Option Files.Obstacle :=
  match given a.logFile with
  | none => (files, none)
  | some file =>
    match Log.openLog files (Files.Path.ofText file) with
    | (files, .ok _) => (files, none)
    | (files, .error o) => (files, some o)

/-- Runs a command line. -/
def run (w : Surroundings) (words : List String) : Outcome :=
  match read w.joining words with
  | .error f => { exit := .usage f.report, files := w.files }
  | .ok .help => { exit := .help, files := w.files }
  | .ok (.run a) =>
    match withLog w.files a with
    | (files, some o) => { exit := .escape (.obstacle o), files := files }
    | (files, none) =>
      if a.listLanguages then
        printing w.console files (finished files) [.table languageTable, quickStart] []
      else generate { w with files := files } a

end CommandLine
end ClassModel
