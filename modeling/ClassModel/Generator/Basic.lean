import ClassModel.Compile.ClassTree
import ClassModel.ProvidedTypes
import ClassModel.Schema.Document
import ClassModel.Target.KotlinWriter
import ClassModel.Target.PythonWriter
import ClassModel.Text.Tidy

/-!
# `Generator` — from a component to source code

A generator is a language and its settings. It reads the provided types that its settings name,
compiles a component, writes the classes in its language, and puts the text into normal form.
-/

set_option autoImplicit false

namespace ClassModel

/-- A target language and the settings of its code. -/
structure Generator where
  language : Language
  settings : Settings
  deriving Repr

namespace Generator

/-- Why no code is generated. -/
inductive Fault
  | provided (f : ProvidedTypes.Fault)
  | compile (f : CompileFault)
  | target (f : Target.Fault)
  deriving Repr

/-- The wording of a fault that is reported as a result. The other faults, values that cannot be
used, have none. -/
def Fault.report? : Fault → Option String
  | .provided (.misfit _) | .compile (.misfit _) | .target (.misfit _) | .target (.untagged _) =>
    none
  | .provided f => some f.message
  | .compile f => some f.message
  | .target (.schema f) => some f.message

/-- The wording of a result without code. -/
def failureText (report : String) : String := "Code generation failed: " ++ report

/-- Generated code, and what it was generated from. -/
structure Generated where
  language : Language
  code : String
  warnings : List String
  component : String
  isUnion : Bool
  /-- The inheritance mode, as it was given. -/
  inheritance : Json
  classCount : Nat
  importCount : Nat
  deriving Repr

/-- The options that a language looks at, with the values that count. -/
def options (g : Generator) : Entries Json :=
  let value (key : String) (standard : Bool) : String × Json :=
    (key, g.settings.option key (.bool standard))
  match g.language with
  | .kotlin => [value "jackson_annotations" true]
  | .python => [value "kw_only" true, value "frozen" false]

/-- The convention of a language. -/
def conventionOf : Language → Convention
  | .kotlin => .kotlin
  | .python => .python

/-- The compiler of a generator with the given provided types. -/
def compiler (g : Generator) (provided : Entries String) : Compiler where
  naming := (conventionOf g.language).naming
  provided := provided
  metaPrefix := g.settings.metaPrefix

/-- The inheritance mode: the one asked for, or the one of the settings. -/
def inheritanceOf (g : Generator) : Option Json → Json
  | none | some .null => g.settings.withInheritance
  | some j => j

/-- The text of a class tree in the generator's language. -/
def write (g : Generator) (d : Descriptor) : Except Target.Fault String :=
  match g.language with
  | .kotlin => KotlinFile.write g.settings d
  | .python => PythonModule.write g.settings d

/-- The provided types that the settings name. -/
def providedTypes (g : Generator) (files : Files.Tree) :
    Except ProvidedTypes.Fault (Entries String) :=
  ProvidedTypes.ofSetting files g.settings.providedTypesFile

/-- The classes of a component, with the given provided types. -/
def classesWith (g : Generator) (provided : Entries String) (s : Schema) (i : s.Id)
    (inheritance : Option Json) : Except Fault Descriptor :=
  match (g.compiler provided).compile s i (g.inheritanceOf inheritance).isSet with
  | .ok d => .ok d
  | .error f => .error (.compile f)

/-- The result for a component, with its class tree and the tree's text. -/
def resultOf (g : Generator) (s : Schema) (i : s.Id) (inheritance : Option Json) (d : Descriptor)
    (raw : String) : Generated where
  language := g.language
  code := Text.tidy raw
  warnings := d.warnings
  component := s.name i
  isUnion := d.isUnion
  inheritance := g.inheritanceOf inheritance
  classCount := d.classCount
  importCount := d.head.imports.length

/-- The code of a component, with the given provided types. -/
def generateWith (g : Generator) (provided : Entries String) (s : Schema) (i : s.Id)
    (inheritance : Option Json) : Except Fault Generated :=
  match g.classesWith provided s i inheritance with
  | .error f => .error f
  | .ok d =>
    match g.write d with
    | .error f => .error (.target f)
    | .ok raw => .ok (g.resultOf s i inheritance d raw)

/-- The classes of a component. -/
def classes (g : Generator) (files : Files.Tree) (s : Schema) (i : s.Id)
    (inheritance : Option Json) : Except Fault Descriptor :=
  match g.providedTypes files with
  | .error f => .error (.provided f)
  | .ok provided => g.classesWith provided s i inheritance

/-- The code of a component. -/
def generate (g : Generator) (files : Files.Tree) (s : Schema) (i : s.Id)
    (inheritance : Option Json) : Except Fault Generated :=
  match g.providedTypes files with
  | .error f => .error (.provided f)
  | .ok provided => g.generateWith provided s i inheritance

/-- The generator for a package, with the given options. A package that is not set leaves the
default one; an option cannot be called like the package. -/
def forPackage (language : Language) (package : Json) (options : Entries Json) :
    Except Misfit Generator :=
  if options.has "package_name" then .error .setting
  else
    let custom : Layer := [("custom", .obj options)]
    let overrides := if package.isSet then custom.set "package_name" package else custom
    .ok ⟨language, .ofLayer ((Layer.defaults language).under overrides)⟩

end Generator

end ClassModel
