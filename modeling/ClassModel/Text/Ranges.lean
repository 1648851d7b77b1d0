/-!
# `Text.Ranges` — a class of characters as ascending ranges of code points

Properties of characters beyond ASCII are data of a standard. Each property has a module of
its own that holds one table; this module says how a table is read. A table lists its ranges
in ascending order, so the search stops at the first range that starts above the code point:
an ASCII character meets only the first few entries.
-/

set_option autoImplicit false

namespace ClassModel
namespace Text

/-- Ranges of code points, both ends included, in ascending order. -/
abbrev Ranges := List (Nat × Nat)

/-- Does some range hold the code point? The ranges are ascending. -/
def Ranges.has : Ranges → Nat → Bool
  | [], _ => false
  | (first, last) :: rest, n => if n < first then false else n ≤ last || Ranges.has rest n

end Text
end ClassModel
