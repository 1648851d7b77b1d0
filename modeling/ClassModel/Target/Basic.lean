import ClassModel.Settings.Basic
import ClassModel.Traverse
import ClassModel.Target.EnumTable
import ClassModel.Text.Margin

/-!
# `Target` — what the files of all target languages share

A file is built from a class tree: one declaration per class, in the order of the tree, and one
per enumeration. A fault is a broken rule of enumerations, a leaf for which its union has no tag,
or a value that cannot be used.
-/

set_option autoImplicit false

namespace ClassModel
namespace Target

/-- Why no file is written. -/
inductive Fault
  | schema (f : SchemaFault)
  /-- A leaf without a tag in the union right above it. -/
  | untagged (leaf : String)
  | misfit (m : Misfit)
  deriving Repr

/-- The comment at the start of a file; none if comments are off. -/
def header? (s : Settings) (d : Descriptor) : Option String :=
  if s.addComments.isSet then
    some s!"Generated by model-generator from component {d.name}.\nDo not edit."
  else none

/-- The header as comment lines, and a blank line after it. -/
def headerText (mark : String) : Option String → String
  | none => ""
  | some h => Text.commentLines mark h ++ "\n\n"

/-- The lines of a list with a comma after all but the last. -/
def commaLines (indent : String) : List String → String
  | [] => ""
  | [item] => indent ++ item ++ "\n"
  | item :: rest => indent ++ item ++ ",\n" ++ commaLines indent rest

/-- Indented lines. -/
def indentedLines (indent : String) (items : List String) : String :=
  String.join (items.map fun item => indent ++ item ++ "\n")

/-- The package and the short name of a qualifier with a dot; none for a qualifier without one.
Only a text can be searched for dots and split; a list or an object can be searched. -/
def splitQualifier : Json → Except Misfit (Option (String × String))
  | .str q =>
    .ok ((Text.splitLast? ['.'] q.toList).map fun (package, name) =>
      (.ofList package, .ofList name))
  | .arr items => if items.any (·.text? == some ".") then .error .parts else .ok none
  | .obj entries => if entries.any (·.1 == ".") then .error .parts else .ok none
  | _ => .error .search

/-- The qualifiers with a dot, each in its two parts. -/
def splitQualifiers (qs : List Json) : Except Misfit (List (String × String)) :=
  match traverse splitQualifier qs with
  | .error m => .error m
  | .ok parts => .ok (parts.filterMap id)

/-- The name of the union right above a class. An empty one is none. -/
def parentName (above : Option Descriptor) : Option String :=
  (above.map (·.name)).filter (· ≠ "")

end Target
end ClassModel
