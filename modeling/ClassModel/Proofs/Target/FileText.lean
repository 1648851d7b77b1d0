import ClassModel.Proofs.Target.Blocks
import ClassModel.Proofs.Text.Rows

/-!
# The lines of a file

A file is a list of parts, and its text is the text of the parts one after the other: the comment at
its start, the package, the imports and the declarations. Each part ends with a line feed, so the
lines of the file are those of its parts, in their order (`KotlinFile.written_text`,
`PythonModule.written_text`). Generated code is this text in normal form, in which each line is cut
at its end and none is lost (`written_tidy`). What is said of the parts of a file thus holds of the
lines of the code, blank lines apart.
-/

set_option autoImplicit false

namespace ClassModel

open Text (Ended written)

namespace Target

end Target

/-! ## Kotlin -/

namespace KotlinFile

variable {indent : String} {file : KotlinFile}

theorem Polymorphism.head?_infoText (p : Polymorphism) :
    p.infoText.toList.head? = some '@' := by
  unfold infoText
  refine Text.head?_toList_append (Text.head?_toList_append (Text.head?_toList_append ?_ _) _) _
  rfl

/-- A declaration starts with a word of its own. -/
theorem Declaration.exists_written_cons (indent : String) (c : Declaration) :
    ∃ first ∈ ['c', 'd', 's', '@', 'e'], ∃ l ls, written (c.text indent) = (first :: l) :: ls := by
  -- In each case the word stands at the left end of what is put together.
  cases c with
  | dataClass name parent properties =>
    cases properties with
    | nil =>
      refine ⟨'c', by decide, Text.exists_written_cons rfl ?_⟩
      repeat apply Text.head?_toList_append
      rfl
    | cons p more =>
      refine ⟨'d', by decide, Text.exists_written_cons rfl ?_⟩
      repeat apply Text.head?_toList_append
      rfl
  | sealedClass name parent polymorphism properties =>
    cases polymorphism with
    | none =>
      refine ⟨'s', by decide, Text.exists_written_cons rfl ?_⟩
      iterate 3 apply Text.head?_toList_append
      simp
    | some p =>
      refine ⟨'@', by decide, Text.exists_written_cons rfl ?_⟩
      iterate 7 apply Text.head?_toList_append
      exact p.head?_infoText
  | enumClass name entries =>
    refine ⟨'e', by decide, Text.exists_written_cons rfl ?_⟩
    repeat apply Text.head?_toList_append
    rfl

end KotlinFile

/-! ## Python -/

namespace PythonModule

variable {indent : String} {m : PythonModule}

/-- A dataclass starts with its decorator. -/
theorem Class.exists_written_cons (indent : String) (o : Options) (c : Class) :
    ∃ l ls, written (c.text indent o) = ('@' :: l) :: ls := by
  have hstart : o.decorator.toList.head? = some '@' := by
    rw [Options.decorator]
    split <;> rfl
  refine Text.exists_written_cons rfl ?_
  simp [Class.text, hstart]

theorem Enumeration.exists_written_cons (indent : String) (e : Enumeration) :
    ∃ l ls, written (e.text indent) = ('c' :: l) :: ls := by
  refine Text.exists_written_cons rfl ?_
  simp [Enumeration.text]

end PythonModule
end ClassModel
