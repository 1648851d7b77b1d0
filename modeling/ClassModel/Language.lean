/-!
# `Language` — the target languages

The languages that class models are written in, and their fixed properties.
-/

set_option autoImplicit false

namespace ClassModel

/-- A target language. -/
inductive Language
  | kotlin
  | python
  deriving DecidableEq, Repr

namespace Language

/-- All target languages. -/
def all : List Language := [.kotlin, .python]

/-- The name of a language. -/
def name : Language → String
  | .kotlin => "kotlin"
  | .python => "python"

/-- The suffix of a file in a language. -/
def extension : Language → String
  | .kotlin => ".kt"
  | .python => ".py"

/-- The name of a generator's class, as listings show it. -/
def generatorName : Language → String
  | .kotlin => "KotlinGenerator"
  | .python => "PythonGenerator"

/-- The name of a naming, as listings show it. -/
def namingName : Language → String
  | .kotlin => "KotlinNamingStrategy"
  | .python => "PythonNamingStrategy"

/-- The module of a generator, as listings show it. -/
def moduleName (l : Language) : String := "model_generator.languages." ++ l.name ++ ".generator"

/-- The other names of a language. -/
def aliases : Language → List String
  | .kotlin => ["kt"]
  | .python => ["py"]

/-- The language of a name. -/
def ofName? (s : String) : Option Language := all.find? (·.name = s)

end Language
end ClassModel
