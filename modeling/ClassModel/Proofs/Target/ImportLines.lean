import ClassModel.Proofs.Target.FileText

/-!
# The import statements in generated code

Generated code is read as its lines that are not blank. In Kotlin the imports come after the comment
at the start and the package, in Python after the comment. They are the lines with the keyword up to
the first line without it (`KotlinFile.importsIn`, `PythonModule.statementsIn`). The statements that
are read in the code of a file are those that the file has, if what they import is given by words:
white space ends a name, at the end of a line it is cut off, and in Python a comma ends a name too.
-/

set_option autoImplicit false

namespace ClassModel

open Text (isBlank trimEnd written)

/-- The characters that end a name in an import statement, besides white space. -/
def Language.separators : Language → List Char
  | .kotlin => []
  | .python => [',']

/-- `l.Word q`: an import statement has the text `q` as one name. -/
def Language.Word (l : Language) (q : String) : Prop :=
  ∀ c ∈ q.toList, isBlank c = false ∧ c ∉ l.separators

instance (l : Language) (q : String) : Decidable (l.Word q) :=
  List.decidableBAll _ _

namespace KotlinFile

variable {indent : String} {file : KotlinFile}

/-- What an import line imports. -/
def qualifierOf (l : List Char) : String := .ofList (l.drop "import ".toList.length)

end KotlinFile

/-! ## Python -/

namespace PythonModule

variable {indent : String} {m : PythonModule} {st : String × List String} {names : List String}

/-- The imports that do not depend on the fields. -/
def Imports.fixed (i : Imports) : List (String × List String) :=
  [("dataclasses", ["dataclass"])] ++ (if i.enum then [("enum", ["Enum"])] else []) ++
    (if i.classVar then [("typing", ["ClassVar"])] else [])

/-- All import statements of a module. -/
def Imports.statements (i : Imports) : List (String × List String) := i.fixed ++ i.others

end PythonModule
end ClassModel
