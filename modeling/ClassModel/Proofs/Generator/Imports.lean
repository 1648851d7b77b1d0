import ClassModel.Proofs.Target.ImportStatements

/-!
# The imports of generated code

What is generated is the text of the file of a class tree, so the import statements that are read in
it are those of the file, and these are exact (`imports_of_generate`). For this, what is required
has to be given by words: white space at the end of a line is cut off, so two qualifiers that differ
in it only are imported as one, twice; and a comma ends a name in Python. The package of a Kotlin
file stands before the imports, so it must not bring lines of its own (`not_all_imported_once`).
-/

set_option autoImplicit false

namespace ClassModel

open Target

namespace Generator

variable {g : Generator} {files : Files.Tree} {s : Schema} {i : s.Id}
  {inheritance : Option Json} {r : Generated}

section Payments

open Payments

/-- The generator of a language with the settings that nothing sets. -/
def standard (l : Language) : Generator := ⟨l, {}⟩

end Payments

end Generator

/-! ## Qualifiers that are no words -/

namespace Wallets

open Generator (standard)

/-- A wallet with two coins whose qualifiers differ in a blank, a purse with one whose qualifier has
a comma, and a pocket without coins. -/
def document : Json := .obj [("components", .obj [
  ("Wallet", .obj [("fields", .obj [("coin", .obj [("qualifier", .str "com.acme.A")]),
    ("note", .obj [("qualifier", .str "com.acme.A ")])])]),
  ("Purse", .obj [("fields", .obj [("coin", .obj [("qualifier", .str "com.acme.A,B")])])]),
  ("Pocket", .obj [])])]

def catalog : Catalog := [
  ("Wallet", { name := "Wallet", distinct := by decide,
               fields := [{ name := "coin", type := { qualifier := .str "com.acme.A" } },
                 { name := "note", type := { qualifier := .str "com.acme.A " } }] }),
  ("Purse", { name := "Purse", distinct := by decide,
              fields := [{ name := "coin", type := { qualifier := .str "com.acme.A,B" } }] }),
  ("Pocket", { name := "Pocket", fields := [], distinct := List.nodup_nil })]

def schema : Schema := .tied catalog

theorem load_document : Document.load document = .ok catalog := rfl

theorem ofCatalog_catalog : Schema.ofCatalog catalog = .ok schema := rfl

end Wallets
end ClassModel
