import ClassModel.Identifier.Sanitizer

/-!
# A memory of answers answers as what it remembers

A memory is sound if it holds answers only, each under its name and case. A call keeps it sound, and
it gets what it would get without a memory (`call_of_sound`); so do calls one after the other
(`calls_of_sound`). A fault is never remembered, so one call has no part in another one's.
-/

set_option autoImplicit false

namespace ClassModel
namespace Identifier
namespace Memo

variable {ε : Type} {answer : String → NameCase → Except ε String} {m : Memo}

/-- Whatever the memory holds is the answer to its name and case. -/
def Sound (answer : String → NameCase → Except ε String) (m : Memo) : Prop :=
  ∀ name case w, m.lookup (name, case) = some w → answer name case = .ok w

theorem sound_nil : Sound answer [] := by
  intro name case w h
  cases h

/-- What is remembered was answered, so the memory stays sound. -/
theorem Sound.remember (h : Sound answer m) {name w : String} {case : NameCase}
    (hw : answer name case = .ok w) : Sound answer (((name, case), w) :: m) := by
  intro name' case' w' h'
  rw [List.lookup_cons] at h'
  split at h'
  · next heq =>
    obtain ⟨rfl, rfl⟩ := Prod.mk.inj (beq_iff_eq.mp heq)
    cases h'
    exact hw
  · exact h name' case' w' h'

/-- **One call** gets what it would get without a memory, and keeps the memory sound. -/
theorem call_of_sound (h : Sound answer m) (name : String) (case : NameCase) :
    (m.call answer name case).1 = answer name case ∧
      Sound answer (m.call answer name case).2 := by
  unfold call
  cases hm : m.lookup (name, case) with
  | some w => exact ⟨(h name case w hm).symm, h⟩
  | none =>
    cases ha : answer name case with
    | ok w => exact ⟨rfl, h.remember ha⟩
    | error e => exact ⟨rfl, h⟩

/-- **Calls one after the other** get what each would get without a memory. -/
theorem calls_of_sound (h : Sound answer m) (cs : List (String × NameCase)) :
    m.calls answer cs = cs.map fun c => answer c.1 c.2 := by
  induction cs generalizing m with
  | nil => rfl
  | cons c rest ih =>
    obtain ⟨name, case⟩ := c
    obtain ⟨hanswer, hsound⟩ := call_of_sound h name case
    show (m.call answer name case).1 :: (m.call answer name case).2.calls answer rest = _
    rw [hanswer, ih hsound, List.map_cons]

end Memo
end Identifier
end ClassModel
