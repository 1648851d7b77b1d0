import ClassModel.Target.KotlinWriter
import ClassModel.Target.PythonWriter

/-!
# `Target.Recall` — writing with remembered names

A generator that writes several files looks a name up in its memory before it makes an identifier
of it, and remembers what it made; what it learned stays when a file is refused. Classes are written
in the order of the tree, each with the names of its properties before its enumerations are
collected. An indent that cannot be used is found before any name is looked up.
-/

set_option autoImplicit false

namespace ClassModel
namespace Target

/-- Work that may be refused, and that looks names up in a memory and adds to it. -/
abbrev Recall (α : Type) : Type := ExceptT Fault (StateM Identifier.Memo) α

namespace Recall

variable {α : Type}

/-- The identifier for a name: the remembered one, or else a new one. -/
def identifier (s : Identifier.Sanitizer) (name : String) (case : Identifier.NameCase) :
    Recall String :=
  ExceptT.mk fun m => m.call (fun name case => .ok (s.sanitize name case)) name case

/-- Work that needs no memory. -/
def given (x : Except Fault α) : Recall α := ExceptT.mk (pure x)

/-- The work's outcome, and the memory after it. -/
def run (x : Recall α) (m : Identifier.Memo) : Except Fault α × Identifier.Memo :=
  StateT.run (ExceptT.run x) m

end Recall
end Target

namespace KotlinFile

open Target (Recall)
open Target.Recall (identifier given)

/-- The property of a field. -/
def recallProperty (f : ResolvedField) : Recall Property := do
  let name ← identifier .kotlin f.name .asGiven
  return propertyNamed f name

/-- The classes of a tree, and the table with their enumerations. -/
def recallClasses (s : Settings) (table : EnumTable) :
    List (Option Descriptor × Descriptor) → Recall (List Declaration × EnumTable)
  | [] => return ([], table)
  | (above, d) :: rest => do
    let properties ← d.ownFields.mapM recallProperty
    let table ← given ((table.addAll d.ownFields).mapError .schema)
    let (classes, table) ← recallClasses s table rest
    return (classWith s above d properties :: classes, table)

/-- The text of the file of a class tree. -/
def recallText (s : Settings) (d : Descriptor) : Recall String := do
  let indent ← given (s.indent.mapError .misfit)
  let (classes, table) ← recallClasses s [] (d.placed none)
  let imports ← given ((importsOf s d).mapError .misfit)
  return (fileWith s d classes table imports).text indent

end KotlinFile

namespace PythonModule

open Target (Recall)
open Target.Recall (identifier given)

/-- The attribute of a field. -/
def recallAttribute (f : ResolvedField) : Recall Attribute := do
  let name ← identifier .python f.name .snake
  return ⟨name, f.type, f.required⟩

/-- The enumeration of literals. -/
def recallEnum (e : EnumClass) : Recall Enumeration := do
  let members ← e.literals.mapM fun l => do
    let name ← identifier .python l .screamingSnake
    return (name, l)
  return ⟨e.name, members⟩

/-- The name of the constant that holds a leaf's tag. -/
def recallTagName : Json → Recall String
  | .str field => identifier .python field .snake
  | _ => given (.error (.misfit .cleaning))

/-- The constants of a class: of a union its discriminator, of a leaf its tag. -/
def recallConstants (above : Option Descriptor) (d : Descriptor) : Recall (List Constant) :=
  match d, above with
  | .union _ discriminator _ _ _, _ => return [⟨"__discriminator__", discriminator⟩]
  | .single _ _, none => return []
  | .single head _, some union => do
    let name ← recallTagName union.discriminator
    match union.tags.get? head.name with
    | none => given (.error (.untagged head.name))
    | some tag => return [⟨name, .str tag⟩]

/-- Looks up the name of the constant that holds the tags of a union's leaves. -/
def recallCheck : Descriptor → Recall Unit
  | .single _ _ => return
  | .union _ discriminator _ _ _ => do
    let _ ← recallTagName discriminator

/-- The dataclasses of a tree, and the table with their enumerations. -/
def recallClasses (o : Options) (table : EnumTable) :
    List (Option Descriptor × Descriptor) → Recall (List Class × EnumTable)
  | [] => return ([], table)
  | (above, d) :: rest => do
    let constants ← recallConstants above d
    let attributes ← (ordered o (declaredFields above d)).mapM recallAttribute
    let table ← given ((table.addAll d.ownFields).mapError .schema)
    recallCheck d
    let (classes, table) ← recallClasses o table rest
    return (⟨d.name, Target.parentName above, constants, attributes⟩ :: classes, table)

/-- The text of the module of a class tree. -/
def recallText (s : Settings) (d : Descriptor) : Recall String := do
  let indent ← given (s.indent.mapError .misfit)
  let (classes, table) ← recallClasses (optionsOf s) [] (d.placed none)
  let enums ← table.classes.mapM recallEnum
  let others ← given ((othersOf s d).mapError .misfit)
  return (moduleWith s d enums classes others).text indent

end PythonModule

/-- The text of a class tree in a language. -/
def Language.recallText : Language → Settings → Descriptor → Target.Recall String
  | .kotlin => KotlinFile.recallText
  | .python => PythonModule.recallText

end ClassModel
