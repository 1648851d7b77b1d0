/-!
# `Identifier.Keyword` — words that a target language reserves

A declaration cannot take one of these words as its name. The lists hold the hard keywords only:
words that are reserved in some places and free in others are not among them.
-/

set_option autoImplicit false

namespace ClassModel
namespace Identifier

/-- The hard keywords of Kotlin. -/
def kotlinKeywords : List String := [
  "as", "break", "class", "continue", "do", "else", "false", "for", "fun", "if", "in",
  "interface", "is", "null", "object", "package", "return", "super", "this", "throw", "true",
  "try", "typealias", "typeof", "val", "var", "when", "while"]

/-- The keywords of Python. -/
def pythonKeywords : List String := [
  "False", "None", "True", "and", "as", "assert", "async", "await", "break", "class", "continue",
  "def", "del", "elif", "else", "except", "finally", "for", "from", "global", "if", "import", "in",
  "is", "lambda", "nonlocal", "not", "or", "pass", "raise", "return", "try", "while", "with",
  "yield"]

end Identifier
end ClassModel
