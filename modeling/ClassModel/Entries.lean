/-!
# `Entries` — maps that keep the order of insertion

Objects of a document, mappings of a discriminator, options and tables are all lists of keyed
values. A key stands at most once: setting it again replaces the value and leaves the key where
it first stood.
-/

set_option autoImplicit false

namespace ClassModel

/-- Keyed values in the order in which the keys were first set. -/
abbrev Entries (α : Type) := List (String × α)

namespace Entries

variable {α : Type}

/-- The keys, in order. -/
def keys (es : Entries α) : List String := es.map Prod.fst

/-- The value of a key. -/
def get? (es : Entries α) (k : String) : Option α := es.lookup k

/-- Is there a value for the key? -/
def has (es : Entries α) (k : String) : Bool := (es.get? k).isSome

/-- The value of a key, or another one if there is none. -/
def getD (es : Entries α) (k : String) (d : α) : α := (es.get? k).getD d

/-- Sets the value of a key: in place if the key is there, else at the end. -/
def set : Entries α → String → α → Entries α
  | [], k, v => [(k, v)]
  | (k', v') :: rest, k, v => if k' = k then (k, v) :: rest else (k', v') :: set rest k v

/-- Removes a key. -/
def erase (es : Entries α) (k : String) : Entries α := es.filter fun e => e.1 != k

/-- Sets all entries of the second map in the first. -/
def merge (es more : Entries α) : Entries α := more.foldl (fun acc e => acc.set e.1 e.2) es

/-- A list of keyed values as a map: a repeated key keeps its first place and its last value. -/
def ofList (es : List (String × α)) : Entries α := merge [] es

@[simp] theorem get?_nil (k : String) : get? ([] : Entries α) k = none := rfl

@[simp] theorem get?_set_self (es : Entries α) (k : String) (v : α) :
    (es.set k v).get? k = some v := by
  induction es with
  | nil => simp [set, get?]
  | cons e rest ih =>
    obtain ⟨k', v'⟩ := e
    simp only [set]
    split
    · simp [get?]
    · rename_i h
      have : (k == k') = false := by simpa using fun e => h e.symm
      simpa [get?, List.lookup_cons, this] using ih

theorem get?_set_ne (es : Entries α) {k j : String} (v : α) (h : j ≠ k) :
    (es.set k v).get? j = es.get? j := by
  induction es with
  | nil => simp [set, get?, List.lookup_cons, beq_eq_false_iff_ne.mpr h]
  | cons e rest ih =>
    obtain ⟨k', v'⟩ := e
    simp only [set]
    split
    · rename_i hk
      subst hk
      simp [get?, List.lookup_cons, beq_eq_false_iff_ne.mpr h]
    · simp only [get?, List.lookup_cons]
      split <;> simp_all [get?]

/-- Setting a key keeps the keys where they are; a new one goes to the end. -/
theorem keys_set (es : Entries α) (k : String) (v : α) :
    (es.set k v).keys = if k ∈ es.keys then es.keys else es.keys ++ [k] := by
  induction es with
  | nil => simp [set, keys]
  | cons e rest ih =>
    obtain ⟨k', v'⟩ := e
    simp only [set]
    split
    · rename_i h
      simp [keys, h]
    · rename_i h
      have h' : k ≠ k' := fun e => h e.symm
      simp only [keys, List.map_cons, List.mem_cons, h', false_or] at ih ⊢
      split <;> simp_all

end Entries
end ClassModel
