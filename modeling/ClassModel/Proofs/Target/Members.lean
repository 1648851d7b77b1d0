import ClassModel.Proofs.Compile.OwnFields
import ClassModel.Proofs.Identifier.Merging
import ClassModel.Proofs.Target.Blocks

/-!
# The members of a declaration

The fields of a class have names of their own, and so have the literals of an enumeration that are
listed once; but what is declared are identifiers. Kotlin declares one property for two fields
exactly if cleaning makes their names one, and Python one attribute exactly if they have one snake
case. The constant with the tag of a leaf joins in, since it is named after a field that the leaf
leaves out; the constant of a union does not. Entries of a Kotlin enumeration keep their literals,
and are always apart; members of a Python one are attributes again (`members_distinct_iff`).
-/

set_option autoImplicit false

namespace ClassModel

/-- The function makes no two of the names one. -/
def Apart (f : String → String) (names : List String) : Prop :=
  ∀ x ∈ names, ∀ y ∈ names, f x = f y → x = y

instance (f : String → String) (names : List String) : Decidable (Apart f names) :=
  inferInstanceAs (Decidable (∀ x ∈ names, ∀ y ∈ names, f x = f y → x = y))

theorem nodup_map_iff_apart {ident f : String → String} {names : List String}
    (h : ∀ x y, ident x = ident y ↔ f x = f y) (hn : names.Nodup) :
    (names.map ident).Nodup ↔ Apart f names := by
  rw [List.nodup_map_iff_inj_on hn]
  simp only [Apart, h]

namespace KotlinFile

variable {settings : Settings} {e : Descriptor} {top : Option Descriptor}

/-- The names of the properties of a class, and of the entries of an enumeration. -/
def Declaration.memberNames : Declaration → List String
  | .dataClass _ _ properties | .sealedClass _ _ _ properties => properties.map (·.name)
  | .enumClass _ entries => entries

theorem name_propertyOf (f : ResolvedField) :
    (propertyOf f).name = Identifier.Sanitizer.kotlin.sanitize f.name .asGiven := by
  rw [propertyOf, propertyNamed]

theorem memberNames_classOf (top : Option Descriptor) (e : Descriptor) :
    (classOf settings top e).memberNames =
      (e.ownFields.map (·.name)).map (Identifier.Sanitizer.kotlin.sanitize · .asGiven) := by
  have hproperties : (classOf settings top e).memberNames =
      (classOf settings top e).properties.map (·.name) := by
    cases e <;> rfl
  simp only [hproperties, properties_classOf, List.map_map, Function.comp_def, name_propertyOf]

/-- **Two fields are one property exactly if cleaning makes their names one.** -/
theorem memberNames_nodup_iff (hn : DistinctNames e.ownFields) :
    (classOf settings top e).memberNames.Nodup ↔
      Apart Identifier.clean (e.ownFields.map (·.name)) := by
  rw [memberNames_classOf]
  exact nodup_map_iff_apart Identifier.kotlin_sanitize_eq_iff hn

/-- The entries of an enumeration are apart if its literals are. -/
theorem memberNames_enumOf_nodup {x : EnumClass} (hx : x.literals.Nodup) :
    (enumOf x).memberNames.Nodup :=
  hx.map entryOf_injective

end KotlinFile

namespace PythonModule

variable {o : Options} {d e : Descriptor} {top : Option Descriptor} {c : Class}

/-- The names of the class variables and of the fields of a dataclass. -/
def Class.memberNames (c : Class) : List String :=
  c.constants.map (·.name) ++ c.attributes.map (·.name)

/-- The names of a schema that a dataclass has members for: the discriminator of the union above a
leaf, and the fields that the class declares itself. -/
def memberFields (top : Option Descriptor) (e : Descriptor) : List String :=
  (if e.isUnion then [] else (top.bind (·.discriminator.text?)).toList) ++
    (declaredFields top e).map (·.name)

/-- The identifier of a field. -/
def identOf (name : String) : String := Identifier.Sanitizer.python.sanitize name .snake

theorem name_attributeOf (f : ResolvedField) : (attributeOf f).name = identOf f.name := by
  rw [attributeOf, identOf]

theorem perm_attributeNames (h : classOf o top e = .ok c) :
    (c.attributes.map (·.name)).Perm (((declaredFields top e).map (·.name)).map identOf) := by
  obtain ⟨_, _, rfl⟩ := classOf_eq_ok_iff.mp h
  simp only [List.map_map, Function.comp_def, name_attributeOf]
  exact (perm_ordered o _).map _

theorem tagName_eq_ok_iff {w : Json} {name : String} :
    tagName w = .ok name ↔ ∃ field, w = .str field ∧ name = identOf field := by
  constructor
  · intro h
    cases w with
    | str field => exact ⟨field, rfl, (Except.ok.inj h).symm⟩
    | _ => cases h
  · intro h
    obtain ⟨field, rfl, hname⟩ := h
    rw [tagName, hname, identOf]

/-- **Two members are one exactly if their names have one snake case.** -/
theorem memberNames_nodup_iff (hclass : classOf o top e = .ok c)
    (hn : (memberFields top e).Nodup) :
    c.memberNames.Nodup ↔ Apart Identifier.snakeOf (memberFields top e) := by
  rw [← nodup_map_iff_apart Identifier.python_sanitize_eq_iff hn]
  change c.memberNames.Nodup ↔ ((memberFields top e).map identOf).Nodup
  have hperm := perm_attributeNames hclass
  obtain ⟨ks, hks, hc⟩ := classOf_eq_ok_iff.mp hclass
  have hconstants : c.constants = ks := by rw [hc]
  rw [Class.memberNames, hconstants]
  rcases constantsOf_cases hks with
    ⟨hu, rfl⟩ | ⟨hl, rfl, rfl⟩ | ⟨u, name, t, hl, rfl, hname, _, rfl⟩
  · -- The constant of a union has a name that no field gets.
    have hnot : "__discriminator__" ∉ c.attributes.map (·.name) := by
      intro hmem
      obtain ⟨n, _, heq⟩ := List.mem_map.mp (hperm.mem_iff.mp hmem)
      exact Identifier.sanitize_ne_discriminator n heq
    simp only [memberFields, hu, if_true, List.nil_append, List.map_cons, List.map_nil,
      List.singleton_append, List.nodup_cons, hnot, not_false_eq_true, true_and]
    exact hperm.nodup_iff
  · -- A leaf without a union above it has no constant.
    have hfields : memberFields none e = (declaredFields none e).map (·.name) := by
      rw [memberFields, hl]
      rfl
    rw [hfields]
    exact hperm.nodup_iff
  · -- The constant of a leaf is named like a field, the discriminator of the union above.
    obtain ⟨field, hw, hident⟩ := tagName_eq_ok_iff.mp hname
    have hfields : memberFields (some u) e =
        field :: (declaredFields (some u) e).map (·.name) := by
      rw [memberFields, hl, Option.bind_some, hw]
      rfl
    rw [hfields, List.map_cons, List.map_cons, ← hident]
    exact (hperm.cons name).nodup_iff

theorem enumMembers_nodup_iff {x : EnumClass} (hx : x.literals.Nodup) :
    ((enumOf x).members.map (·.1)).Nodup ↔ Apart Identifier.snakeOf x.literals := by
  rw [← nodup_map_iff_apart Identifier.python_screaming_eq_iff hx, enumOf]
  simp only [List.map_map, Function.comp_def]

theorem declaredFields_sublist (top : Option Descriptor) (e : Descriptor) :
    (declaredFields top e).Sublist e.ownFields := by
  rw [declaredFields]
  split
  · exact .refl _
  · exact List.filter_sublist

end PythonModule

namespace Compiler

variable {k : Compiler} {s : Schema} {inherit : Bool} {i : s.Id} {d e : Descriptor}
  {above : List Descriptor} {x : EnumClass}

/-- The names that a dataclass has members for are different. -/
theorem nodup_memberFields (h : k.compile s i inherit = .ok d) (hs : d.Site above e) :
    (PythonModule.memberFields above.getLast? e).Nodup := by
  have hsub := PythonModule.declaredFields_sublist above.getLast? e
  have hnames : ((PythonModule.declaredFields above.getLast? e).map (·.name)).Nodup :=
    (distinctNames_of_site h hs).sublist (hsub.map _)
  rw [PythonModule.memberFields]
  split
  · exact hnames
  · next hl =>
    cases hw : above.getLast?.bind (·.discriminator.text?) with
    | none => exact hnames
    | some w =>
      obtain ⟨u, hu, hw⟩ := Option.bind_eq_some_iff.mp hw
      refine List.nodup_cons.mpr ⟨?_, hnames⟩
      -- The leaf leaves the field out that its tag is named after.
      intro hmem
      obtain ⟨r, hr, rfl⟩ := List.mem_map.mp hmem
      exact ne_discriminator_of_leaf h hs (by simpa using hl) hu (hsub.subset hr) hw

theorem nodup_literals (h : k.compile s i inherit = .ok d)
    (hl : ∀ l, s.Reaches i l → ∀ f ∈ (s.component l).fields, f.literals.Nodup)
    (hx : x ∈ d.distinctEnums) : x.literals.Nodup := by
  obtain ⟨route, u, hu, hx⟩ := Descriptor.mem_treeEnums.mp (mem_of_mem_firstByName hx)
  obtain ⟨above, hs⟩ := Descriptor.exists_site_of_at? hu
  obtain ⟨l, hreach, f, hf, hsame⟩ := exists_literals_of_site h hs hx
  rw [hsame]
  exact hl l hreach f hf

/-- **When the members of a file are apart.** Where no list of literals repeats one, the properties
of a Kotlin class are apart exactly if cleaning makes no two of its fields one, and the members of
a dataclass or of an enumeration of Python exactly if no two of the names behind them have one
snake case. The entries of a Kotlin enumeration always are. -/
theorem members_distinct_iff (h : k.compile s i inherit = .ok d)
    (hl : ∀ l, s.Reaches i l → ∀ f ∈ (s.component l).fields, f.literals.Nodup)
    (settings : Settings) (text : String) :
    (KotlinFile.write settings d = .ok text → ∃ indent file,
      KotlinFile.ofDescriptor settings d = .ok file ∧ text = file.text indent ∧
      List.Forall₂ (fun p c => c.name = p.2.name ∧
          (c.memberNames.Nodup ↔ Apart Identifier.clean (p.2.ownFields.map (·.name))))
        (d.placed none) file.classes ∧
      List.Forall₂ (fun x c => c.name = x.name ∧ c.memberNames.Nodup) d.distinctEnums
        file.enums) ∧
    (PythonModule.write settings d = .ok text → ∃ indent m,
      PythonModule.ofDescriptor settings d = .ok m ∧ text = m.text indent ∧
      List.Forall₂ (fun p c => c.name = p.2.name ∧
          (c.memberNames.Nodup ↔ Apart Identifier.snakeOf (PythonModule.memberFields p.1 p.2)))
        (d.placed none) m.classes ∧
      List.Forall₂ (fun x c => c.name = x.name ∧
          ((c.members.map (·.1)).Nodup ↔ Apart Identifier.snakeOf x.literals))
        d.distinctEnums m.enums) := by
  have hsite : ∀ p ∈ d.placed none, ∃ above, d.Site above p.2 ∧ p.1 = above.getLast? :=
    fun p hp => Descriptor.mem_placed_none_iff.mp hp
  constructor
  · intro hw
    obtain ⟨indent, file, _, hf, rfl⟩ := KotlinFile.write_eq_ok_iff.mp hw
    refine ⟨indent, file, hf, rfl, ?_, ?_⟩
    · rw [KotlinFile.classes_eq hf, List.forall₂_map_right_iff, List.forall₂_same]
      intro p hp
      obtain ⟨above, hs, _⟩ := hsite p hp
      exact ⟨KotlinFile.name_classOf p.1 p.2,
        KotlinFile.memberNames_nodup_iff (distinctNames_of_site h hs)⟩
    · rw [KotlinFile.enums_eq hf, List.forall₂_map_right_iff, List.forall₂_same]
      intro x hx
      exact ⟨rfl, KotlinFile.memberNames_enumOf_nodup (nodup_literals h hl hx)⟩
  · intro hw
    obtain ⟨indent, m, _, hm, rfl⟩ := PythonModule.write_eq_ok_iff.mp hw
    obtain ⟨hclasses, _, henums, _⟩ := PythonModule.parts_of_ofDescriptor hm
    refine ⟨indent, m, hm, rfl, ?_, ?_⟩
    · -- What a class counts depends on the union above it, which the site knows.
      refine ((List.forall₂_and_left _ _).mpr ⟨hsite, hclasses⟩).imp ?_
      intro p c hp
      obtain ⟨⟨above, hs, hlast⟩, hclass⟩ := hp
      have hnodup := nodup_memberFields h hs
      rw [← hlast] at hnodup
      refine ⟨?_, PythonModule.memberNames_nodup_iff hclass hnodup⟩
      obtain ⟨_, _, rfl⟩ := PythonModule.classOf_eq_ok_iff.mp hclass
      rfl
    · rw [henums, List.forall₂_map_right_iff, List.forall₂_same]
      intro x hx
      exact ⟨rfl, PythonModule.enumMembers_nodup_iff (nodup_literals h hl hx)⟩

end Compiler

/-! ## Users and guests -/

namespace Accounts

/-- The fields of a component: texts of the given names, and a state that is one of the given
literals. -/
def fieldsJson (names literals : List String) : Json :=
  .obj [("fields", .obj ((names.map fun n => (n, .obj [("qualifier", .str "kotlin.String")])) ++
    [("state", .obj [("qualifier", .str "kotlin.String"),
      ("enum", .arr (literals.map .str))])]))]

/-- The names of a user differ in one character, and so do the states. -/
def document : Json := .obj [("components", .obj [
  ("User", fieldsJson ["user-name", "user_name"] ["on-line", "on_line"]),
  ("Guest", fieldsJson ["user-name", "nickName"] ["on-line", "off"])])]

/-- A field with a text. -/
def textField (name : String) (literals : List String) : Field :=
  { name := name, type := { qualifier := .str "kotlin.String" }, literals := literals }

def catalog : Catalog := [
  ("User", {
    name := "User"
    fields := [textField "user-name" [], textField "user_name" [],
      textField "state" ["on-line", "on_line"]]
    distinct := by decide }),
  ("Guest", {
    name := "Guest"
    fields := [textField "user-name" [], textField "nickName" [],
      textField "state" ["on-line", "off"]]
    distinct := by decide })]

def schema : Schema := .tied catalog

def accountClass (name : String) (names literals : List String) : Descriptor :=
  .single (.named name)
    ((names.map fun n => { name := n, type := "String" }) ++
      [{ name := "state", type := "State", enum := some ⟨"State", literals⟩ }])

def userClass : Descriptor :=
  accountClass "User" ["user-name", "user_name"] ["on-line", "on_line"]

def guestClass : Descriptor :=
  accountClass "Guest" ["user-name", "nickName"] ["on-line", "off"]

theorem load_document : Document.load document = .ok catalog := rfl

theorem ofCatalog_catalog : Schema.ofCatalog catalog = .ok schema := rfl

theorem compile_user : ({} : Compiler).compile schema (0 : Fin 2) true = .ok userClass := rfl

theorem compile_guest : ({} : Compiler).compile schema (1 : Fin 2) true = .ok guestClass := rfl

theorem literals_nodup : ∀ l : Fin 2, ∀ f ∈ (schema.component l).fields, f.literals.Nodup := by
  decide

end Accounts

namespace Compiler

open Accounts

/-- All members of a guest are apart, in both languages. -/
theorem guest_members_distinct :
    (∀ l : schema.Id, schema.Reaches (1 : Fin 2) l →
      ∀ f ∈ (schema.component l).fields, f.literals.Nodup) ∧
    (∃ file, KotlinFile.ofDescriptor {} guestClass = .ok file ∧
      ∀ c ∈ file.declarations, c.memberNames.Nodup) ∧
    ∃ m, PythonModule.ofDescriptor {} guestClass = .ok m ∧
      (∀ c ∈ m.classes, c.memberNames.Nodup) ∧
      ∀ x ∈ m.enums, (x.members.map (·.1)).Nodup := by
  have hl : ∀ l : schema.Id, schema.Reaches (1 : Fin 2) l →
      ∀ f ∈ (schema.component l).fields, f.literals.Nodup :=
    fun l _ => literals_nodup l
  have hkotlin : ∃ text, KotlinFile.write {} guestClass = .ok text := ⟨_, rfl⟩
  have hpython : ∃ text, PythonModule.write {} guestClass = .ok text := ⟨_, rfl⟩
  refine ⟨hl, ?_, ?_⟩
  · obtain ⟨text, hw⟩ := hkotlin
    obtain ⟨_, file, hf, _, hclasses, henums⟩ :=
      (members_distinct_iff compile_guest hl {} text).1 hw
    refine ⟨file, hf, ?_⟩
    intro c hc
    rcases List.mem_append.mp hc with hc | hc
    · obtain ⟨p, hp, _, hiff⟩ := exists_left_of_forall₂ hclasses hc
      have hapart : ∀ p ∈ guestClass.placed none,
          Apart Identifier.clean (p.2.ownFields.map (·.name)) := by decide
      exact hiff.mpr (hapart p hp)
    · obtain ⟨_, _, _, hnodup⟩ := exists_left_of_forall₂ henums hc
      exact hnodup
  · obtain ⟨text, hw⟩ := hpython
    obtain ⟨_, m, hm, _, hclasses, henums⟩ := (members_distinct_iff compile_guest hl {} text).2 hw
    refine ⟨m, hm, ?_, ?_⟩
    · intro c hc
      obtain ⟨p, hp, _, hiff⟩ := exists_left_of_forall₂ hclasses hc
      have hapart : ∀ p ∈ guestClass.placed none,
          Apart Identifier.snakeOf (PythonModule.memberFields p.1 p.2) := by decide
      exact hiff.mpr (hapart p hp)
    · intro c hc
      obtain ⟨x, hx, _, hiff⟩ := exists_left_of_forall₂ henums hc
      have hapart : ∀ x ∈ guestClass.distinctEnums,
          Apart Identifier.snakeOf x.literals := by decide
      exact hiff.mpr (hapart x hx)

/-- **Members can meet**: the two names of a user make one property of a Kotlin class and one
attribute of a dataclass, and the two states one member of an enumeration of Python. -/
theorem not_all_members_distinct :
    (¬ ∀ (document : Json) (catalog : Catalog) (s : Schema) (i : s.Id) (k : Compiler)
      (inherit : Bool) (d : Descriptor) (settings : Settings) (file : KotlinFile),
      Document.load document = .ok catalog → Schema.ofCatalog catalog = .ok s →
      (∀ l, ∀ f ∈ (s.component l).fields, f.literals.Nodup) →
      k.compile s i inherit = .ok d → KotlinFile.ofDescriptor settings d = .ok file →
      ∀ c ∈ file.classes, c.memberNames.Nodup) ∧
    (¬ ∀ (document : Json) (catalog : Catalog) (s : Schema) (i : s.Id) (k : Compiler)
      (inherit : Bool) (d : Descriptor) (settings : Settings) (m : PythonModule),
      Document.load document = .ok catalog → Schema.ofCatalog catalog = .ok s →
      (∀ l, ∀ f ∈ (s.component l).fields, f.literals.Nodup) →
      k.compile s i inherit = .ok d → PythonModule.ofDescriptor settings d = .ok m →
      ∀ c ∈ m.classes, c.memberNames.Nodup) ∧
    ¬ ∀ (document : Json) (catalog : Catalog) (s : Schema) (i : s.Id) (k : Compiler)
      (inherit : Bool) (d : Descriptor) (settings : Settings) (m : PythonModule),
      Document.load document = .ok catalog → Schema.ofCatalog catalog = .ok s →
      (∀ l, ∀ f ∈ (s.component l).fields, f.literals.Nodup) →
      k.compile s i inherit = .ok d → PythonModule.ofDescriptor settings d = .ok m →
      ∀ x ∈ m.enums, (x.members.map (·.1)).Nodup := by
  have hfile : ∃ file, KotlinFile.ofDescriptor {} userClass = .ok file ∧
      ¬ ∀ c ∈ file.classes, c.memberNames.Nodup := ⟨_, rfl, by decide⟩
  have hmodule : ∃ m, PythonModule.ofDescriptor {} userClass = .ok m ∧
      (¬ ∀ c ∈ m.classes, c.memberNames.Nodup) ∧
      ¬ ∀ x ∈ m.enums, (x.members.map (·.1)).Nodup :=
    ⟨_, rfl, by decide +kernel, by decide +kernel⟩
  obtain ⟨file, hf, hkotlin⟩ := hfile
  obtain ⟨m, hm, hclasses, henums⟩ := hmodule
  refine ⟨?_, ?_, ?_⟩
  · intro hall
    exact hkotlin (hall document catalog schema (0 : Fin 2) {} true userClass {} file load_document
      ofCatalog_catalog literals_nodup compile_user hf)
  · intro hall
    exact hclasses (hall document catalog schema (0 : Fin 2) {} true userClass {} m load_document
      ofCatalog_catalog literals_nodup compile_user hm)
  · intro hall
    exact henums (hall document catalog schema (0 : Fin 2) {} true userClass {} m load_document
      ofCatalog_catalog literals_nodup compile_user hm)

end Compiler
end ClassModel
