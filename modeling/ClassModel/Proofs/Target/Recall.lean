import ClassModel.Proofs.Identifier.Memo
import ClassModel.Proofs.Target.EnumTable
import ClassModel.Target.Recall

/-!
# Writing with remembered names writes the same

`Recalls s x r` says that work with a memory gets `r` whatever sound memory it starts from, and
leaves a sound one, also if it is refused. Pieces of work with that property can be put together
(`Recalls.bind`, `Recalls.mapM`), so the writers of both languages have it: what they write is what
they would write without a memory (`recalls_recallText`).
-/

set_option autoImplicit false

namespace ClassModel
namespace Target
namespace Recall

variable {α β : Type} {s : Identifier.Sanitizer} {x : Recall α} {r : Except Fault α}

/-- The memory holds identifiers that the sanitizer makes. -/
def Sound (s : Identifier.Sanitizer) (m : Identifier.Memo) : Prop :=
  m.Sound fun name case => (.ok (s.sanitize name case) : Except Fault String)

/-- From any sound memory the work has the outcome `r`, and leaves a sound memory. -/
def Recalls (s : Identifier.Sanitizer) (x : Recall α) (r : Except Fault α) : Prop :=
  ∀ m, Sound s m → (x.run m).1 = r ∧ Sound s (x.run m).2

theorem run_bind (x : Recall α) (f : α → Recall β) (m : Identifier.Memo) :
    (x >>= f).run m = match x.run m with
      | (.ok a, m) => (f a).run m
      | (.error e, m) => (.error e, m) := by
  unfold Recall.run ExceptT.run StateT.run
  simp only [bind, ExceptT.bind, ExceptT.mk, StateT.bind]
  cases x m with
  | mk result m => cases result <;> rfl

theorem recalls_pure (a : α) : Recalls s (pure a) (.ok a) := by
  intro m hm
  exact ⟨rfl, hm⟩

theorem recalls_given (r : Except Fault α) : Recalls s (given r) r := by
  intro m hm
  exact ⟨rfl, hm⟩

theorem recalls_identifier (name : String) (case : Identifier.NameCase) :
    Recalls s (identifier s name case) (.ok (s.sanitize name case)) := by
  intro m hm
  exact Identifier.Memo.call_of_sound hm name case

/-- **One piece of work after another**: the second one starts from what the first one left. -/
theorem Recalls.bind_ok {a : α} {f : α → Recall β} {r : Except Fault β}
    (hx : Recalls s x (.ok a)) (hf : Recalls s (f a) r) : Recalls s (x >>= f) r := by
  intro m hm
  obtain ⟨hr, hm'⟩ := hx m hm
  rw [run_bind]
  cases hrun : x.run m with
  | mk result m' =>
    rw [hrun] at hr hm'
    subst hr
    exact hf m' hm'

/-- Work that is refused has nothing after it, but what it remembered is kept. -/
theorem Recalls.bind_error {e : Fault} (hx : Recalls s x (.error e)) (f : α → Recall β) :
    Recalls s (x >>= f) (.error e) := by
  intro m hm
  obtain ⟨hr, hm'⟩ := hx m hm
  rw [run_bind]
  cases hrun : x.run m with
  | mk result m' =>
    rw [hrun] at hr hm'
    subst hr
    exact ⟨rfl, hm'⟩

/-- Work on each item of a list that is never refused. -/
theorem Recalls.mapM {f : α → Recall β} {g : α → β} (hf : ∀ a, Recalls s (f a) (.ok (g a)))
    (as : List α) : Recalls s (as.mapM f) (.ok (as.map g)) := by
  induction as with
  | nil => exact recalls_pure []
  | cons a rest ih =>
    rw [List.mapM_cons]
    exact (hf a).bind_ok (ih.bind_ok (recalls_pure (g a :: rest.map g)))

end Recall
end Target

open Target.Recall

namespace KotlinFile

variable (settings : Settings)

theorem recalls_property (f : ResolvedField) :
    Recalls .kotlin (recallProperty f) (.ok (propertyOf f)) :=
  (recalls_identifier f.name .asGiven).bind_ok (recalls_pure (propertyOf f))

/-- Looking up the names of each class before its enumerations are added leaves the table that the
fields of all classes make. -/
theorem recalls_classes (table : EnumTable) (ps : List (Option Descriptor × Descriptor)) :
    Recalls .kotlin (recallClasses settings table ps)
      (match table.addAll (ps.flatMap (·.2.ownFields)) with
        | .error f => .error (.schema f)
        | .ok table => .ok (ps.map fun p => classOf settings p.1 p.2, table)) := by
  -- The table grows from class to class, so the induction is for every table.
  induction ps generalizing table with
  | nil => exact recalls_pure ([], table)
  | cons p rest ih =>
    obtain ⟨above, d⟩ := p
    rw [recallClasses, List.flatMap_cons, EnumTable.addAll_append]
    apply (Recalls.mapM recalls_property d.ownFields).bind_ok
    cases table.addAll d.ownFields with
    | error e => exact (recalls_given (.error (.schema e))).bind_error _
    | ok u =>
      apply (recalls_given (.ok u)).bind_ok
      have hrest := ih u
      show Recalls _ _ (match u.addAll (rest.flatMap (·.2.ownFields)) with
        | .error f => .error (.schema f)
        | .ok table => .ok (classOf settings above d :: rest.map _, table))
      cases ht : u.addAll (rest.flatMap (·.2.ownFields)) with
      | error e =>
        rw [ht] at hrest
        exact hrest.bind_error _
      | ok t =>
        rw [ht] at hrest
        exact hrest.bind_ok (recalls_pure _)

/-- **A Kotlin file is the one that is written without a memory.** -/
theorem recalls_text (d : Descriptor) :
    Recalls .kotlin (recallText settings d) (write settings d) := by
  rw [recallText, write]
  cases settings.indent with
  | error m => exact (recalls_given (.error (.misfit m))).bind_error _
  | ok indent =>
    apply (recalls_given (.ok indent)).bind_ok
    have hclasses := recalls_classes settings [] (d.placed none)
    rw [ofDescriptor]
    cases ht : EnumTable.addAll [] ((d.placed none).flatMap (·.2.ownFields)) with
    | error e =>
      rw [ht] at hclasses
      exact hclasses.bind_error _
    | ok table =>
      rw [ht] at hclasses
      apply hclasses.bind_ok
      cases importsOf settings d with
      | error m => exact (recalls_given (.error (.misfit m))).bind_error _
      | ok imports => exact (recalls_given (.ok imports)).bind_ok (recalls_pure _)

end KotlinFile

namespace PythonModule

theorem recalls_attribute (f : ResolvedField) :
    Recalls .python (recallAttribute f) (.ok (attributeOf f)) :=
  (recalls_identifier f.name .snake).bind_ok (recalls_pure (attributeOf f))

theorem recalls_enum (e : EnumClass) : Recalls .python (recallEnum e) (.ok (enumOf e)) := by
  apply (Recalls.mapM (fun l => ?_) e.literals).bind_ok (recalls_pure (enumOf e))
  exact (recalls_identifier l .screamingSnake).bind_ok (recalls_pure _)

theorem recalls_tagName (j : Json) :
    Recalls .python (recallTagName j) ((tagName j).mapError .misfit) := by
  cases j with
  | str field => exact recalls_identifier field .snake
  | _ => exact recalls_given (.error (.misfit .cleaning))

theorem recalls_constants (above : Option Descriptor) (d : Descriptor) :
    Recalls .python (recallConstants above d) (constantsOf above d) := by
  cases d with
  | union head discriminator common tags subclasses => exact recalls_pure _
  | single head fields =>
    cases above with
    | none => exact recalls_pure []
    | some union =>
      rw [recallConstants, constantsOf]
      have hname := recalls_tagName union.discriminator
      cases ht : tagName union.discriminator with
      | error m =>
        rw [ht] at hname
        exact hname.bind_error _
      | ok name =>
        rw [ht] at hname
        apply hname.bind_ok
        cases union.tags.get? head.name with
        | none => exact recalls_given (.error (.untagged head.name))
        | some tag => exact recalls_pure _

theorem recalls_check (d : Descriptor) :
    Recalls .python (recallCheck d) ((checkTagName d).mapError .misfit) := by
  cases d with
  | single head fields => exact recalls_pure ()
  | union head discriminator common tags subclasses =>
    rw [recallCheck, checkTagName]
    have hname := recalls_tagName discriminator
    cases ht : tagName discriminator with
    | error m =>
      rw [ht] at hname
      exact hname.bind_error _
    | ok name =>
      rw [ht] at hname
      exact hname.bind_ok (recalls_pure ())

/-- A class looks up its tag, then its attributes; then come its enumerations, and then the tags of
the leaves below it. -/
theorem recalls_classes (o : Options) (table : EnumTable)
    (ps : List (Option Descriptor × Descriptor)) :
    Recalls .python (recallClasses o table ps) (classesOf o table ps) := by
  induction ps generalizing table with
  | nil => exact recalls_pure ([], table)
  | cons p rest ih =>
    obtain ⟨above, d⟩ := p
    rw [recallClasses, classesOf, classOf]
    -- Names are looked up as the classes are made, and a fault ends both alike.
    have hconstants := recalls_constants above d
    cases hc : constantsOf above d with
    | error e =>
      rw [hc] at hconstants
      exact hconstants.bind_error _
    | ok constants =>
      rw [hc] at hconstants
      apply hconstants.bind_ok
      apply (Recalls.mapM recalls_attribute (ordered o (declaredFields above d))).bind_ok
      cases table.addAll d.ownFields with
      | error f => exact (recalls_given (.error (.schema f))).bind_error _
      | ok u =>
        apply (recalls_given (.ok u)).bind_ok
        have hcheck := recalls_check d
        cases hd : checkTagName d with
        | error m =>
          rw [hd] at hcheck
          exact hcheck.bind_error _
        | ok _ =>
          rw [hd] at hcheck
          apply hcheck.bind_ok
          have hrest := ih u
          dsimp only
          cases hr : classesOf o u rest with
          | error e =>
            rw [hr] at hrest
            exact hrest.bind_error _
          | ok p =>
            rw [hr] at hrest
            exact hrest.bind_ok (recalls_pure _)

/-- **A Python module is the one that is written without a memory.** -/
theorem recalls_text (settings : Settings) (d : Descriptor) :
    Recalls .python (recallText settings d) (write settings d) := by
  rw [recallText, write]
  cases settings.indent with
  | error m => exact (recalls_given (.error (.misfit m))).bind_error _
  | ok indent =>
    apply (recalls_given (.ok indent)).bind_ok
    have hclasses := recalls_classes (optionsOf settings) [] (d.placed none)
    rw [ofDescriptor]
    cases hc : classesOf (optionsOf settings) [] (d.placed none) with
    | error e =>
      rw [hc] at hclasses
      exact hclasses.bind_error _
    | ok p =>
      rw [hc] at hclasses
      apply hclasses.bind_ok
      apply (Recalls.mapM recalls_enum p.2.classes).bind_ok
      cases othersOf settings d with
      | error m => exact (recalls_given (.error (.misfit m))).bind_error _
      | ok others => exact (recalls_given (.ok others)).bind_ok (recalls_pure _)

end PythonModule
end ClassModel
