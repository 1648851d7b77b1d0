import ClassModel.Registry

/-!
# `Generator.FromDocument` — code for a component of a document

The document is loaded, the component is looked up in it, a generator is made for the language,
and the component's code is generated. The first of these steps that fails is the fault.
-/

set_option autoImplicit false

namespace ClassModel

namespace Document

/-- Why no code is generated for a component of a document. -/
inductive GenerateFault
  | document (f : Fault)
  | unknownComponent (component : String) (available : List String)
  | registry (f : Registry.Fault)
  | generator (f : Generator.Fault)
  deriving Repr

/-- What is said of a component that a document does not have. -/
def unknownText (component : String) (available : List String) : String :=
  s!"Unknown component '{component}'. Available: " ++ ", ".intercalate available

/-- The code for a component of a document. -/
def generate (files : Files.Tree) (document : Json) (component language : String) (config : Json)
    (inheritance : Option Json) : Except GenerateFault Generator.Generated :=
  match load document with
  | .error f => .error (.document f)
  | .ok catalog =>
    match Schema.ofCatalog catalog with
    | .error _ => .error (.unknownComponent component (Entries.keys catalog))
    | .ok s =>
      match s.find? component with
      | none => .error (.unknownComponent component (Entries.keys catalog))
      | some i =>
        match Registry.bundled.create files language config with
        | .error f => .error (.registry f)
        | .ok g =>
          match g.generate files s i inheritance with
          | .ok r => .ok r
          | .error f => .error (.generator f)

end Document
end ClassModel
