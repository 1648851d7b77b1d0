import ClassModel.Text.Split

/-!
# `Text.Tidy` — the normal form of a source text

No line has white space at its end, no more than two blank lines stand together, none stands at
the start or the end, and the text ends with one line feed.
-/

set_option autoImplicit false

namespace ClassModel
namespace Text

/-- The blank lines that may stand together. -/
def mostBlank : Nat := 2

/-- Drops blank lines beyond the most that may stand together; `seen` of them came right before. -/
def limitBlank (seen : Nat) : List (List Char) → List (List Char)
  | [] => []
  | l :: rest =>
    if l.isEmpty then
      if seen < mostBlank then l :: limitBlank (seen + 1) rest else limitBlank (seen + 1) rest
    else l :: limitBlank 0 rest

/-- The lines without white space at their ends and without surplus blank lines. -/
def tidyLines (ls : List (List Char)) : List (List Char) := limitBlank 0 (ls.map trimEnd)

/-- The source text in normal form. -/
def tidy (s : String) : String :=
  .ofList (strip '\n' (joinAt '\n' (tidyLines (splitAt '\n' s.toList))) ++ ['\n'])

end Text
end ClassModel
