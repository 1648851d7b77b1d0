/-!
# `Ascending` — sorted lists without repeats

Imports, aliases and languages are listed in strictly ascending order. Each value is put before the
first of those already there that comes after it, and one that is there is not put in again.
-/

set_option autoImplicit false

namespace ClassModel

variable {α : Type}

/-- Puts a value before the first that comes after it, unless the same value is met before that. -/
def insertAscending (before same : α → α → Bool) (a : α) : List α → List α
  | [] => [a]
  | b :: rest =>
    if before a b then a :: b :: rest
    else if same b a then b :: rest
    else b :: insertAscending before same a rest

/-- The values of a list in ascending order, each once. -/
def ascending (before same : α → α → Bool) (as : List α) : List α :=
  as.foldl (fun acc a => insertAscending before same a acc) []

/-- The order of texts: by code point, a proper start before what goes on. -/
def textBefore (a b : String) : Bool := decide (a < b)

/-- Texts in ascending order, each once. -/
def ascendingTexts (ss : List String) : List String := ascending textBefore (· == ·) ss

end ClassModel
