import ClassModel.Ascending
import ClassModel.Identifier.Sanitizer
import ClassModel.Target.PythonModule

/-!
# `Target.PythonWriter` — from a class tree to a Python module

Each class of the tree is one dataclass, in the order of the tree. A union holds the name of its
discriminator; a leaf holds its tag and those of its fields that no union above declares. Unless
all arguments are given by name, required attributes come before optional ones.
-/

set_option autoImplicit false

namespace ClassModel
namespace PythonModule

/-- The modules whose names need no import. -/
def implicitModules : List String := ["builtins"]

/-- The options of dataclasses that settings ask for. -/
def optionsOf (s : Settings) : Options where
  keywordsOnly := (s.option "kw_only" (.bool true)).isSet
  frozen := (s.option "frozen" (.bool false)).isSet

/-- The attribute of a field. -/
def attributeOf (f : ResolvedField) : Attribute :=
  ⟨Identifier.Sanitizer.python.sanitize f.name .snake, f.type, f.required⟩

/-- The fields in the order in which a dataclass takes them. -/
def ordered (o : Options) (fs : List ResolvedField) : List ResolvedField :=
  if o.keywordsOnly then fs else fs.filter (·.required) ++ fs.filter (!·.required)

/-- The enumeration of literals. -/
def enumOf (e : EnumClass) : Enumeration :=
  ⟨e.name, e.literals.map fun l => (Identifier.Sanitizer.python.sanitize l .screamingSnake, l)⟩

/-- The name of the constant that holds a leaf's tag. -/
def tagName : Json → Except Misfit String
  | .str field => .ok (Identifier.Sanitizer.python.sanitize field .snake)
  | _ => .error .cleaning

/-- The constants of a class: of a union its discriminator, of a leaf its tag. -/
def constantsOf (above : Option Descriptor) (d : Descriptor) :
    Except Target.Fault (List Constant) :=
  match d, above with
  | .union _ discriminator _ _ _, _ => .ok [⟨"__discriminator__", discriminator⟩]
  | .single _ _, none => .ok []
  | .single head _, some union =>
    match tagName union.discriminator with
    | .error m => .error (.misfit m)
    | .ok name =>
      match union.tags.get? head.name with
      | none => .error (.untagged head.name)
      | some tag => .ok [⟨name, .str tag⟩]

/-- The fields that a class declares itself. The root and unions declare all of theirs. -/
def declaredFields (above : Option Descriptor) (d : Descriptor) : List ResolvedField :=
  if d.isUnion || above.isNone then d.ownFields else d.ownFields.filter (!·.isOverride)

/-- The dataclass of a class below another one, or of the root. -/
def classOf (o : Options) (above : Option Descriptor) (d : Descriptor) :
    Except Target.Fault Class :=
  match constantsOf above d with
  | .error e => .error e
  | .ok constants => .ok {
      name := d.name
      parent := Target.parentName above
      constants := constants
      attributes := (ordered o (declaredFields above d)).map attributeOf }

/-- Refuses a union whose leaves could not name the constant of their tag. -/
def checkTagName : Descriptor → Except Misfit Unit
  | .single _ _ => .ok ()
  | .union _ discriminator _ _ _ => (tagName discriminator).map fun _ => ()

/-- The dataclasses of a tree and the table with its enumerations. Faults come in the order of the
tree: of a class first its tag, then its enumerations, then the name of its leaves' tags. -/
def classesOf (o : Options) (table : EnumTable) :
    List (Option Descriptor × Descriptor) → Except Target.Fault (List Class × EnumTable)
  | [] => .ok ([], table)
  | (above, d) :: rest =>
    match classOf o above d with
    | .error e => .error e
    | .ok c =>
      match table.addAll d.ownFields with
      | .error f => .error (.schema f)
      | .ok table =>
        match checkTagName d with
        | .error m => .error (.misfit m)
        | .ok () =>
          match classesOf o table rest with
          | .error e => .error e
          | .ok (cs, table) => .ok (c :: cs, table)

/-- The names imported from other modules, modules and names in ascending order. -/
def othersOf (s : Settings) (d : Descriptor) : Except Misfit (List (String × List String)) :=
  match Target.splitQualifiers d.head.imports with
  | .error m => .error m
  | .ok qualifiers =>
    let needed := qualifiers.filter fun q =>
      !implicitModules.contains q.1 && s.packageName.text? != some q.1
    .ok ((ascendingTexts (needed.map (·.1))).map fun m =>
      (m, ascendingTexts ((needed.filter (·.1 = m)).map (·.2))))

/-- The module of a class tree with its enumerations, its dataclasses, and its imports from other
modules. -/
def moduleWith (s : Settings) (d : Descriptor) (enums : List Enumeration) (classes : List Class)
    (others : List (String × List String)) : PythonModule where
  header := Target.header? s d
  imports := ⟨!enums.isEmpty, d.isUnion, others⟩
  options := optionsOf s
  enums := enums
  classes := classes

/-- The module of a class tree. -/
def ofDescriptor (s : Settings) (d : Descriptor) : Except Target.Fault PythonModule :=
  match classesOf (optionsOf s) [] (d.placed none) with
  | .error e => .error e
  | .ok (classes, table) =>
    match othersOf s d with
    | .error m => .error (.misfit m)
    | .ok others => .ok (moduleWith s d (table.classes.map enumOf) classes others)

/-- The text of the module of a class tree. -/
def write (s : Settings) (d : Descriptor) : Except Target.Fault String :=
  match s.indent with
  | .error m => .error (.misfit m)
  | .ok indent => (ofDescriptor s d).map (·.text indent)

end PythonModule
end ClassModel
