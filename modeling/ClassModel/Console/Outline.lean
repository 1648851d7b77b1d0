import ClassModel.Console.Basic
import ClassModel.Descriptor
import ClassModel.Misfit

/-!
# `Console.Outline` — the tree of classes

The outline of a class tree has a label per class, with its fields below it; a class that its union
has a tag for shows the tag. Names, types and tags are made safe by the console's own `escape`.
-/

set_option autoImplicit false

namespace ClassModel
namespace Console

/-- What the label of a field says besides its type. -/
def markers (f : ResolvedField) : List String :=
  (if f.isAbstract then ["abstract"] else []) ++ (if f.isOverride then ["override"] else []) ++
    (if f.required then [] else ["optional"])

/-- The end of a field's label. -/
def markersSuffix (f : ResolvedField) : String :=
  if (markers f).isEmpty then ""
  else " " ++ Style.dim.text ("(" ++ ", ".intercalate (markers f) ++ ")")

section

variable (escape : String → String)

/-- The label of a field. -/
def fieldLabel (f : ResolvedField) : String :=
  escape f.name ++ ": " ++ Style.cyan.text (escape f.type) ++ markersSuffix f

/-- The labels of fields. -/
def fieldOutlines (fs : List ResolvedField) : List Outline :=
  fs.map fun f => .node (fieldLabel escape f) []

/-- The label of a single class. -/
def singleLabel (name : String) : String := Style.boldGreen.text (escape name)

/-- The label of a union; only a text can name its discriminator. -/
def unionLabel (name : String) : Json → Except Misfit String
  | .str field => .ok (Style.boldMagenta.text (escape name) ++ " " ++
      Style.dim.text ("(oneOf by '" ++ escape field ++ "')"))
  | _ => .error .cleaning

/-- What the label of a class says of its tag. -/
def tagSuffix (tag : String) : String := " " ++ Style.yellow.text ("= \"" ++ escape tag ++ "\"")

mutual

/-- The outline of a class tree. -/
def outlineOf : Descriptor → Except Misfit Outline
  | .single head fields =>
    .ok (.node (singleLabel escape head.name) (fieldOutlines escape fields))
  | .union head discriminator common tags subclasses =>
    match unionLabel escape head.name discriminator with
    | .error m => .error m
    | .ok label =>
      match outlinesOf tags subclasses with
      | .error m => .error m
      | .ok below => .ok (.node label (fieldOutlines escape common ++ below))

/-- The outlines of the classes below a union with the given tags. -/
def outlinesOf (tags : Entries String) : List Descriptor → Except Misfit (List Outline)
  | [] => .ok []
  | d :: rest =>
    match outlineOf d with
    | .error m => .error m
    | .ok o =>
      match outlinesOf tags rest with
      | .error m => .error m
      | .ok os => .ok ((match tags.get? d.name with
        | some tag => o.suffixed (tagSuffix escape tag)
        | none => o) :: os)

end

end

end Console
end ClassModel
