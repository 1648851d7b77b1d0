import ClassModel.Proofs.Compile.Imports
import ClassModel.Proofs.Compile.Mirror
import ClassModel.Proofs.Target.ImportLines

/-!
# The import statements of a file

A class tree lists the qualifiers that its fields need (`mem_imports_of_compile`). A file imports
those of them that have a package, unless the language or the file itself has that package already
(`Foreign`). Kotlin has one line for each; Python puts the names of a module into one statement
(`grouped`). A qualifier can be cut into a package and a name in one way only
(`InPackage.unique`), so no two statements import the same one.

Each language has imports of its own besides, for what it writes whatever the fields are: the
annotations of a Kotlin file are sorted in among the others, the first statements of a Python module
stand before them. A field may have one of these as its type; then a Python module has a statement
for the field too.

All this holds of the parts of a file. In its code the statements are the same, as long as what is
required is given by words (`importsIn_eq`, `statementsIn_eq`).
-/

set_option autoImplicit false

namespace ClassModel

/-- The parts of a word are words. -/
theorem Language.Word.parts {l : Language} {p n : String} (h : l.Word (p ++ "." ++ n)) :
    l.Word p ∧ l.Word n := by
  constructor
  · exact fun c hc => h c (by simp [hc])
  · exact fun c hc => h c (by simp [hc])

namespace Target

variable {q p p' n : String} {j own : Json} {qs : List Json} {parts : List (String × String)}
  {known : List String}

/-- `InPackage q p`: what stands before the last dot of the qualifier `q` is `p`. -/
def InPackage (q p : String) : Prop := ∃ n, q = p ++ "." ++ n ∧ '.' ∉ n.toList

/-- `Foreign known own q`: the qualifier has a package, which is none of the known ones and not the
file's own. -/
def Foreign (known : List String) (own : Json) (q : String) : Prop :=
  ∃ p, InPackage q p ∧ p ∉ known ∧ own ≠ .str p

theorem splitQualifier_eq_some_iff :
    splitQualifier j = .ok (some (p, n)) ↔ j = .str (p ++ "." ++ n) ∧ '.' ∉ n.toList := by
  cases j with
  | str q =>
    simp only [splitQualifier, Except.ok.injEq, Option.map_eq_some_iff, Prod.exists, Prod.mk.injEq,
      Text.splitLast?_eq_some_iff, Json.str.injEq]
    constructor
    · intro h
      obtain ⟨before, after, ⟨hq, hafter⟩, rfl, rfl⟩ := h
      rw [String.toList_ofList]
      refine ⟨?_, hafter⟩
      rw [← String.toList_inj, hq]
      simp
    · intro h
      obtain ⟨rfl, hn⟩ := h
      exact ⟨p.toList, n.toList, ⟨by simp, hn⟩, String.ofList_toList, String.ofList_toList⟩
  | arr items =>
    simp only [splitQualifier]
    split <;> simp
  | obj entries =>
    simp only [splitQualifier]
    split <;> simp
  | _ => simp [splitQualifier]

/-- A qualifier is in one package. -/
theorem InPackage.unique (h : InPackage q p) (h' : InPackage q p') : p = p' := by
  obtain ⟨n, hq, hn⟩ := h
  obtain ⟨n', hq', hn'⟩ := h'
  have hsplit : splitQualifier (.str q) = .ok (some (p, n)) :=
    splitQualifier_eq_some_iff.mpr ⟨by rw [hq], hn⟩
  rw [splitQualifier_eq_some_iff.mpr ⟨by rw [hq'], hn'⟩] at hsplit
  cases hsplit
  rfl

end Target

/-! ## What a file requires -/

namespace Compiler

variable {k : Compiler} {s : Schema} {inherit : Bool} {i : s.Id} {d : Descriptor} {q : String}

end Compiler

open Target

/-! ## Kotlin -/

namespace KotlinFile

variable {ι : Type} {settings : Settings} {d : Descriptor} {file : KotlinFile} {q p : String}
  {imports : List String}

/-- The package of the file of a root: the root's qualifier, else the configured one. -/
def ownPackage (settings : Settings) (root : Component ι) : Json :=
  if root.qualifier.isSet then root.qualifier else settings.packageName

/-- How the values of a sealed class are told apart, if that is said. -/
def Declaration.polymorphism? : Declaration → Option Polymorphism
  | .sealedClass _ _ polymorphism _ => polymorphism
  | .dataClass _ _ _ | .enumClass _ _ => none

/-- The imports of a file of the root: what is required from other packages, and what the
annotations need, if there are any; each by one line, in ascending order. -/
structure ImportsExactly (settings : Settings) (root : Component ι) (Required : String → Prop)
    (file : KotlinFile) : Prop where
  imported_iff (q : String) : q ∈ file.imports ↔
    (Required q ∧ Foreign implicitPackages (ownPackage settings root) q) ∨
      (root.isUnion = true ∧ isAnnotated settings = true ∧ q ∈ annotationImports)
  ascending : file.imports.Pairwise (· < ·)
  once (q : String) : q ∈ file.imports → file.imports.count q = 1
  annotated_iff : (∃ c ∈ file.classes, c.polymorphism?.isSome = true) ↔
    root.isUnion = true ∧ isAnnotated settings = true

/-- Only the root says how its values are told apart, and only if it is a union and may. -/
theorem polymorphism?_classOf {above : Option Descriptor} {e : Descriptor} :
    (classOf settings above e).polymorphism?.isSome = true ↔
      above = none ∧ e.isUnion = true ∧ isAnnotated settings = true := by
  cases e with
  | single _ _ => simp [classOf, classWith, Descriptor.isUnion, Declaration.polymorphism?]
  | union _ _ _ _ _ =>
    cases above <;>
      simp [classOf, classWith, Descriptor.isUnion, Declaration.polymorphism?, apply_ite]

theorem annotated_iff_of_ofDescriptor (hf : ofDescriptor settings d = .ok file) :
    (∃ c ∈ file.classes, c.polymorphism?.isSome = true) ↔
      d.isUnion = true ∧ isAnnotated settings = true := by
  constructor
  · intro h
    obtain ⟨c, hc, hset⟩ := h
    obtain ⟨unions, e, hs, rfl⟩ := (mem_classes_iff hf).mp hc
    obtain ⟨habove, he, hannotated⟩ := polymorphism?_classOf.mp hset
    cases hs with
    | root => exact ⟨he, hannotated⟩
    | under _ _ => simp at habove
  · intro h
    exact ⟨_, (mem_classes_iff hf).mpr ⟨[], d, .root d, rfl⟩, polymorphism?_classOf.mpr ⟨rfl, h⟩⟩

theorem word_annotationImports : ∀ q ∈ annotationImports, Language.kotlin.Word q := by
  decide +kernel

/-- If what is required is given by words, so is all that is imported. -/
theorem ImportsExactly.word {root : Component ι} {Required : String → Prop}
    (h : ImportsExactly settings root Required file)
    (hwords : ∀ q, Required q → Language.kotlin.Word q) (hq : q ∈ file.imports) :
    Language.kotlin.Word q ∧ q ≠ "" := by
  rcases (h.imported_iff q).mp hq with ⟨hrequired, _, ⟨n, rfl, _⟩, _⟩ | ⟨_, _, hmem⟩
  · exact ⟨hwords _ hrequired, by simp⟩
  · refine ⟨word_annotationImports q hmem, ?_⟩
    rintro rfl
    revert hmem
    decide

end KotlinFile

/-! ## Python -/

namespace PythonModule

variable {ι : Type} {settings : Settings} {d : Descriptor} {m : PythonModule} {q n : String}
  {pairs : List (String × String)} {st : String × List String}
  {others : List (String × List String)}

/-- The qualifiers of the names that a statement imports from a module. -/
def broughtBy (st : String × List String) : List String := st.2.map fun n => st.1 ++ "." ++ n

/-- The imports of a module of the root: what is required from other modules, by one statement for
each module, modules and names in ascending order; the others exactly where they are used. -/
structure ImportsExactly (settings : Settings) (root : Component ι) (Required : String → Prop)
    (m : PythonModule) : Prop where
  imported_iff (q : String) : q ∈ m.imports.others.flatMap broughtBy ↔
    Required q ∧ Foreign implicitModules settings.packageName q
  modules : (m.imports.others.map (·.1)).Pairwise (· < ·)
  names (st : String × List String) :
    st ∈ m.imports.others → st.2 ≠ [] ∧ st.2.Pairwise (· < ·)
  once (q : String) : q ∈ m.imports.others.flatMap broughtBy →
    (m.imports.others.flatMap broughtBy).count q = 1
  once_in_all (q : String) : q ∉ m.imports.fixed.flatMap broughtBy →
    q ∈ m.imports.statements.flatMap broughtBy →
    (m.imports.statements.flatMap broughtBy).count q = 1
  enum_iff : m.imports.enum = true ↔ m.enums ≠ []
  classVar_iff : m.imports.classVar = true ↔ root.isUnion = true
  constants_iff : (∃ c ∈ m.classes, c.constants ≠ []) ↔ root.isUnion = true

end PythonModule

end ClassModel
