import ClassModel.Proofs.Compile.Overriding
import ClassModel.Target.KotlinWriter

/-!
# Overrides in a Kotlin file

A property that a Kotlin file marks `override` must be declared `abstract` by a class above it,
under the same name and with the same type. The writer decides both words by the flags of a field
alone, so this is a law about the flags: the fields of a union are all abstract, and a marked field
of a leaf is listed above in the leaf's shape. The classes of a file are those at the sites of its
tree (`mem_classes_iff`), which puts the declaring class into the same file.
-/

set_option autoImplicit false

namespace ClassModel
namespace KotlinFile

variable {k : Compiler} {s : Schema} {inherit : Bool} {i : s.Id} {d : Descriptor}
  {settings : Settings} {file : KotlinFile} {p : Property} {f g : ResolvedField}

/-- The properties of a class; an enumeration has none. -/
def Declaration.properties : Declaration → List Property
  | .dataClass _ _ properties | .sealedClass _ _ _ properties => properties
  | .enumClass _ _ => []

/-- What the declarations of a property and of its overrides have in common: its name and the text
of its type. -/
def Property.signature (p : Property) : String :=
  p.name ++ ": " ++ if p.required then p.type else p.type ++ "?"

theorem text_of_declared (h : p.modifier = .declared) :
    p.text = "abstract val " ++ p.signature := by
  rw [Property.text, Property.signature, h]
  simp [String.append_assoc, toString]

theorem text_of_override (h : p.modifier = .override) : ∃ standard,
    p.text = "override val " ++ p.signature ++ standard := by
  refine ⟨if p.required then "" else " = null", ?_⟩
  rw [Property.text, Property.signature, h]
  simp [String.append_assoc, toString]

/-- Only an override is written as one. -/
theorem modifier_of_text {rest : String} (h : p.text = "override val " ++ rest) :
    p.modifier = .override := by
  have hhead : p.text.toList.head? = some 'o' := by rw [h]; simp
  cases hm : p.modifier with
  | override => rfl
  | own => simp [Property.text, hm, toString] at hhead
  | declared => simp [Property.text, hm, toString] at hhead

/-- Fields of one name and shape make properties of one signature. -/
theorem signature_propertyOf (hname : g.name = f.name) (hs : g.shape = f.shape) :
    (propertyOf g).signature = (propertyOf f).signature := by
  obtain ⟨htype, _, hrequired⟩ := Shape.mk.inj hs
  rw [propertyOf, propertyOf, propertyNamed, propertyNamed, Property.signature, Property.signature,
    hname, htype, hrequired]

theorem modifier_eq_override_iff :
    (propertyOf f).modifier = .override ↔ f.isAbstract = false ∧ f.isOverride = true := by
  cases ha : f.isAbstract <;> cases ho : f.isOverride <;> simp [propertyOf, propertyNamed, ha, ho]

theorem properties_classOf (above : Option Descriptor) :
    (classOf settings above d).properties = d.ownFields.map propertyOf := by
  cases d <;> rfl

theorem classes_eq (hf : ofDescriptor settings d = .ok file) :
    file.classes = (d.placed none).map fun p => classOf settings p.1 p.2 := by
  rw [ofDescriptor] at hf
  split at hf
  · cases hf
  · split at hf
    · cases hf
    · cases hf
      rfl

/-- The classes of a file are those at the sites of the tree it is written from. -/
theorem mem_classes_iff (hf : ofDescriptor settings d = .ok file) {c : Declaration} :
    c ∈ file.classes ↔ ∃ above e, d.Site above e ∧ c = classOf settings above.getLast? e := by
  rw [classes_eq hf, List.mem_map]
  constructor
  · rintro ⟨⟨a, e⟩, hm, rfl⟩
    obtain ⟨above, hs, rfl⟩ := Descriptor.mem_placed_none_iff.mp hm
    exact ⟨above, e, hs, rfl⟩
  · rintro ⟨above, e, hs, rfl⟩
    exact ⟨_, Descriptor.mem_placed_none_iff.mpr ⟨above, hs, rfl⟩, rfl⟩

/-- `DeclaredAbove settings file above p`: one of the unions `above` is a sealed class of the file
and declares `p` abstract, under the same name and with the same type. -/
def DeclaredAbove (settings : Settings) (file : KotlinFile) (above : List Descriptor)
    (p : Property) : Prop :=
  ∃ pre u post parent polymorphism properties, above = pre ++ u :: post ∧
    classOf settings pre.getLast? u = .sealedClass u.name parent polymorphism properties ∧
    .sealedClass u.name parent polymorphism properties ∈ file.classes ∧
    ∃ q ∈ properties, q.name = p.name ∧ q.type = p.type ∧ q.text = "abstract val " ++ p.signature

/-- A field of a leaf that a union above lists in the same shape is declared above in the file. -/
theorem declaredAbove_of_listed (h : k.compile s i inherit = .ok d)
    (hf : ofDescriptor settings d = .ok file) {above : List Descriptor} {leaf u : Descriptor}
    (hs : d.Site above leaf) (hu : u ∈ above) (hg : g ∈ u.ownFields) (hname : g.name = f.name)
    (hshape : g.shape = f.shape) : DeclaredAbove settings file above (propertyOf f) := by
  obtain ⟨hunion, pre, post, rfl, hsite⟩ := hs.of_mem_above hu
  have hclass : ∃ parent polymorphism, classOf settings pre.getLast? u =
      .sealedClass u.name parent polymorphism (u.ownFields.map propertyOf) := by
    rw [classOf, classWith, if_pos hunion]
    exact ⟨_, _, rfl⟩
  obtain ⟨parent, polymorphism, hclass⟩ := hclass
  have hdeclared : (propertyOf g).modifier = .declared := by
    rw [propertyOf, propertyNamed, if_pos (Compiler.isAbstract_of_listed h hsite hunion hg)]
  have hsig := signature_propertyOf hname hshape
  refine ⟨pre, u, post, parent, polymorphism, _, rfl, hclass, ?_, propertyOf g,
    List.mem_map_of_mem hg, ?_, ?_, ?_⟩
  · exact hclass ▸ (mem_classes_iff hf).mpr ⟨pre, u, hsite, rfl⟩
  · rw [propertyOf, propertyOf, propertyNamed, propertyNamed, hname]
  · exact (Shape.mk.inj hshape).1
  · rw [← hsig]
    exact text_of_declared hdeclared

/-- **A field of a leaf is marked exactly if a union above lists its name, and every union that
lists it does so in the leaf's shape.** So every property that a Kotlin file writes as an override
is declared abstract, with the same name and type, by a sealed class above it in the file. -/
theorem override_iff_declared_above (hn : Function.Injective s.name)
    (h : k.compile s i inherit = .ok d) :
    (∀ above leaf, d.Site above leaf → leaf.isUnion = false → ∀ f ∈ leaf.ownFields,
      (f.isOverride = true ↔ ∃ u ∈ above, ∃ g ∈ u.ownFields, g.name = f.name) ∧
        ∀ u ∈ above, ∀ g ∈ u.ownFields, g.name = f.name → g.shape = f.shape) ∧
    ∀ settings file, ofDescriptor settings d = .ok file → ∀ c ∈ file.classes,
      ∀ p ∈ c.properties, ∀ rest, p.text = "override val " ++ rest →
        (∃ standard, rest = p.signature ++ standard) ∧
        ∃ above leaf, d.Site above leaf ∧ leaf.isUnion = false ∧
          c = classOf settings above.getLast? leaf ∧ DeclaredAbove settings file above p := by
  refine ⟨fun above leaf hs hl f hf => ⟨Compiler.isOverride_iff_listed hn h hs hl hf,
    fun u hu g hg hname => Compiler.shape_of_listed hn h hs hl hf hu hg hname⟩, ?_⟩
  intro settings file hfile c hc p hp rest htext
  have hmod := modifier_of_text htext
  refine ⟨?_, ?_⟩
  · obtain ⟨standard, hs⟩ := text_of_override hmod
    rw [htext, String.append_assoc] at hs
    exact ⟨standard, (String.append_right_inj _).mp hs⟩
  · obtain ⟨above, e, hs, rfl⟩ := (mem_classes_iff hfile).mp hc
    rw [properties_classOf] at hp
    obtain ⟨f, hf, rfl⟩ := List.mem_map.mp hp
    -- A field of a union is abstract, so an override stands in a leaf.
    obtain ⟨habstract, hover⟩ := modifier_eq_override_iff.mp hmod
    have hleaf : e.isUnion = false := by
      cases hu : e.isUnion with
      | false => rfl
      | true =>
        rw [Compiler.isAbstract_of_listed h hs hu hf] at habstract
        cases habstract
    obtain ⟨u, hu, g, hg, hname⟩ := (Compiler.isOverride_iff_listed hn h hs hleaf hf).mp hover
    have hshape := Compiler.shape_of_listed hn h hs hleaf hf hu hg hname
    exact ⟨above, e, hs, hleaf, rfl, declaredAbove_of_listed h hfile hs hu hg hname hshape⟩

open Payments

/-- The prepaid card has the type from the transfers and the amount from the payments, and the file
declares both above it. -/
theorem prepaid_declared_above :
    (∀ f ∈ prepaidClass.ownFields,
      ∃ u ∈ [paymentClass, transferClass], ∃ g ∈ u.ownFields, g.name = f.name) ∧
    ∃ file, ofDescriptor {} paymentClass = .ok file ∧
      ∀ f ∈ prepaidClass.ownFields, ∃ above, DeclaredAbove {} file above (propertyOf f) := by
  obtain ⟨hflags, hfile⟩ := override_iff_declared_above name_injective compile_schema
  have hmarked : ∀ f ∈ prepaidClass.ownFields, f.isOverride = true ∧ f.isAbstract = false := by
    decide
  have hwritten : ∃ file, ofDescriptor {} paymentClass = .ok file := ⟨_, rfl⟩
  obtain ⟨file, hf⟩ := hwritten
  refine ⟨fun f hm => ((hflags _ _ site_prepaidClass rfl f hm).1).mp (hmarked f hm).1,
    file, hf, fun f hm => ?_⟩
  have hclass : classOf {} (some transferClass) prepaidClass ∈ file.classes :=
    (mem_classes_iff hf).mpr ⟨_, _, site_prepaidClass, rfl⟩
  have hproperty : propertyOf f ∈ (classOf {} (some transferClass) prepaidClass).properties := by
    rw [properties_classOf]
    exact List.mem_map_of_mem hm
  obtain ⟨standard, htext⟩ :=
    text_of_override (modifier_eq_override_iff.mpr (hmarked f hm).symm)
  rw [String.append_assoc] at htext
  obtain ⟨_, above, _, _, _, _, habove⟩ := hfile {} file hf _ hclass _ hproperty _ htext
  exact ⟨above, habove⟩

end KotlinFile
end ClassModel
