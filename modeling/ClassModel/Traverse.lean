/-!
# `Traverse` — a fallible step for each item, the first fault wins

The one loop behind compiling and writing: items are handled in order, and the first fault ends
it. A proof needs of it that nothing gives nothing, and when a first item leaves a result.
-/

set_option autoImplicit false

namespace ClassModel

variable {α β ε : Type}

/-- The results for all items in order, or the fault of the first item that has one. -/
def traverse (f : α → Except ε β) : List α → Except ε (List β)
  | [] => .ok []
  | a :: rest =>
    match f a with
    | .error e => .error e
    | .ok b =>
      match traverse f rest with
      | .error e => .error e
      | .ok bs => .ok (b :: bs)

@[simp] theorem traverse_nil (f : α → Except ε β) : traverse f [] = .ok [] := rfl

/-- There are results for a first item and the rest exactly if there are for both. -/
theorem traverse_cons_eq_ok {f : α → Except ε β} {a : α} {as : List α} {bs : List β} :
    traverse f (a :: as) = .ok bs ↔
      ∃ b rest, f a = .ok b ∧ traverse f as = .ok rest ∧ bs = b :: rest := by
  simp only [traverse]
  constructor
  · intro h
    split at h
    · cases h
    · rename_i b hb
      split at h
      · cases h
      · rename_i rest hr
        cases h
        exact ⟨b, rest, hb, hr, rfl⟩
  · rintro ⟨b, rest, hb, hr, rfl⟩
    rw [hb, hr]

end ClassModel
