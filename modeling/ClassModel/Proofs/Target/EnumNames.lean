import ClassModel.Proofs.Identifier.EnumName
import ClassModel.Proofs.Target.Blocks

/-!
# The names of the enumerations in a file

A file declares an enumeration for each field that has one, under a name that is made of the
field's. It passes no sanitizer on the way. So the names in the declarations, which are the types of
the fields too, are identifiers exactly if the names of these fields suit the language
(`enumNames_identifiers_iff`).
-/

set_option autoImplicit false

namespace ClassModel

namespace Descriptor

/-- The fields with enumerations of all classes of a tree, each with its enumeration. -/
def enumFields (d : Descriptor) : List (ResolvedField × EnumClass) :=
  d.preorder.flatMap fun u => u.ownFields.filterMap fun f => f.enum.map fun e => (f, e)

variable {d : Descriptor} {f : ResolvedField} {e : EnumClass}

theorem mem_enumFields : (f, e) ∈ d.enumFields ↔
    ∃ route u, d.at? route = some u ∧ f ∈ u.ownFields ∧ f.enum = some e := by
  rw [enumFields, List.mem_flatMap]
  constructor
  · intro h
    obtain ⟨u, hu, hf⟩ := h
    obtain ⟨route, hroute⟩ := mem_preorder_iff.mp hu
    obtain ⟨g, hg, hpair⟩ := List.mem_filterMap.mp hf
    obtain ⟨_, he, hsame⟩ := Option.map_eq_some_iff.mp hpair
    cases hsame
    exact ⟨route, u, hroute, hg, he⟩
  · intro h
    obtain ⟨route, u, hroute, hf, he⟩ := h
    refine ⟨u, mem_preorder_iff.mpr ⟨route, hroute⟩, List.mem_filterMap.mpr ⟨f, hf, ?_⟩⟩
    rw [he, Option.map_some]

/-- Without a clash the enumerations that are kept have the names of all. -/
theorem mem_distinctEnums_names (h : ¬ d.EnumsClash) (name : String) :
    name ∈ d.distinctEnums.map (·.name) ↔ ∃ p ∈ d.enumFields, p.2.name = name := by
  constructor
  · intro hname
    obtain ⟨e, he, rfl⟩ := List.mem_map.mp hname
    obtain ⟨route, u, hu, hmem⟩ := mem_treeEnums.mp (mem_of_mem_firstByName he)
    obtain ⟨f, hf, hfe⟩ := List.mem_filterMap.mp hmem
    exact ⟨(f, e), mem_enumFields.mpr ⟨route, u, hu, hf, hfe⟩, rfl⟩
  · intro hname
    obtain ⟨⟨f, e⟩, hp, rfl⟩ := hname
    obtain ⟨route, u, hu, hf, he⟩ := mem_enumFields.mp hp
    exact List.mem_map_of_mem
      (mem_distinctEnums h hu (List.mem_filterMap.mpr ⟨f, hf, he⟩))

end Descriptor

namespace Compiler

variable {k : Compiler} {s : Schema} {inherit : Bool} {i : s.Id} {d : Descriptor}
  {f : ResolvedField} {e : EnumClass}

theorem TypedAs.enum_name {g : Field} {type : String} {enum : Option EnumClass}
    (h : k.TypedAs g type enum) (he : enum = some e) : k.naming.enumName g.name = .ok e.name := by
  cases h with
  | plain _ _ => cases he
  | enum _ _ hname =>
    cases he
    exact hname
  | collection _ _ hname _ _ =>
    cases he
    exact hname

/-- **The enumeration of a field** is called after the field, is the field's type or the parameter
of it. -/
theorem enum_of_enumFields (h : k.compile s i inherit = .ok d) (hp : (f, e) ∈ d.enumFields) :
    k.naming.enumName f.name = .ok e.name ∧
      (f.type = e.name ∨ ∃ base, k.naming.parameterize base [e.name] = .ok f.type) := by
  obtain ⟨route, u, hu, hf, he⟩ := Descriptor.mem_enumFields.mp hp
  obtain ⟨above, hs⟩ := Descriptor.exists_site_of_at? hu
  obtain ⟨g, hg, htyped⟩ := exists_declaration_of_site h hs hf
  exact ⟨hg ▸ htyped.enum_name he, htyped.refers he⟩

/-- By a convention the enumeration of a field is called by an identifier exactly if the field's
name suits. -/
theorem suits_of_enumFields {n : Convention} (hn : k.naming = n.naming)
    (h : k.compile s i inherit = .ok d) (hp : (f, e) ∈ d.enumFields) :
    (f.type = e.name ∨ ∃ base, f.type = n.brackets.apply base [e.name]) ∧
      Text.isIdentifier e.name = n.enumStyle.suits f.name := by
  obtain ⟨hname, htype⟩ := enum_of_enumFields h hp
  rw [hn] at hname htype
  constructor
  · exact htype.imp_right fun ⟨base, hbase⟩ => ⟨base, (Except.ok.inj hbase).symm⟩
  · rw [← Except.ok.inj hname, Convention.isIdentifier_enumName]

end Compiler

namespace Generator

variable {g : Generator} {files : Files.Tree} {s : Schema} {i : s.Id}
  {inheritance : Option Json} {r : Generated} {d : Descriptor} {raw : String}

/-- The names in the declarations of enumerations of the file that is written of a tree. -/
def enumNames (g : Generator) (d : Descriptor) : Except Target.Fault (List String) :=
  match g.language with
  | .kotlin => (KotlinFile.ofDescriptor g.settings d).map fun file => file.enums.map (·.name)
  | .python => (PythonModule.ofDescriptor g.settings d).map fun m => m.enums.map (·.name)

/-- What is written declares the enumerations of its tree, and there is no clash among them. -/
theorem enumNames_of_write (h : g.write d = .ok raw) :
    ¬ d.EnumsClash ∧ g.enumNames d = .ok (d.distinctEnums.map (·.name)) := by
  rw [write] at h
  rw [enumNames]
  cases hl : g.language with
  | kotlin =>
    simp only [hl] at h
    obtain ⟨indent, file, hindent, hf, _⟩ := KotlinFile.write_eq_ok_iff.mp h
    constructor
    · intro hclash
      obtain ⟨_, _, _, herr⟩ := (KotlinFile.declaresEnums hindent d).raises_iff.mpr hclash
      rw [h] at herr
      cases herr
    · simp only [hf, Except.map, KotlinFile.enums_eq hf, List.map_map]
      rfl
  | python =>
    simp only [hl] at h
    obtain ⟨_, m, _, hm, _⟩ := PythonModule.write_eq_ok_iff.mp h
    obtain ⟨_, hclash, henums, _⟩ := PythonModule.parts_of_ofDescriptor hm
    refine ⟨hclash, ?_⟩
    simp only [hm, Except.map, henums, List.map_map]
    rfl

/-- **When enumerations are called by identifiers.** Code is written of a class tree, and declares
an enumeration under the name of each that a field of the tree has, and no others. The type of the
field refers to it by that name. All of these names are identifiers exactly if the names of all
fields with enumerations suit the language. -/
theorem enumNames_identifiers_iff (h : g.generate files s i inheritance = .ok r) :
    ∃ d raw names, g.classes files s i inheritance = .ok d ∧ g.write d = .ok raw ∧
      r.code = Text.tidy raw ∧ g.enumNames d = .ok names ∧
      (∀ name, name ∈ names ↔ ∃ p ∈ d.enumFields, p.2.name = name) ∧
      (∀ p ∈ d.enumFields,
        (p.1.type = p.2.name ∨
          ∃ base, p.1.type = (conventionOf g.language).brackets.apply base [p.2.name]) ∧
        Text.isIdentifier p.2.name = (conventionOf g.language).enumStyle.suits p.1.name) ∧
      ((∀ name ∈ names, Text.isIdentifier name = true) ↔
        ∀ p ∈ d.enumFields, (conventionOf g.language).enumStyle.suits p.1.name = true) := by
  obtain ⟨provided, d, raw, _, hcompile, hd, hraw, hcode⟩ := exists_tree_of_generate h
  obtain ⟨hclash, hnames⟩ := enumNames_of_write hraw
  have hmem := Descriptor.mem_distinctEnums_names hclash
  have hfields : ∀ p ∈ d.enumFields,
      (p.1.type = p.2.name ∨
        ∃ base, p.1.type = (conventionOf g.language).brackets.apply base [p.2.name]) ∧
      Text.isIdentifier p.2.name = (conventionOf g.language).enumStyle.suits p.1.name :=
    fun p hp => Compiler.suits_of_enumFields rfl hcompile hp
  refine ⟨d, raw, _, hd, hraw, hcode, hnames, hmem, hfields, ?_⟩
  constructor
  · intro hall p hp
    rw [← (hfields p hp).2]
    exact hall _ ((hmem _).mpr ⟨p, hp, rfl⟩)
  · intro hall name hname
    obtain ⟨p, hp, rfl⟩ := (hmem name).mp hname
    rw [(hfields p hp).2]
    exact hall p hp

end Generator

/-! ## Two factors -/

namespace Logins

/-- A component with a field for each name, all with one enumeration of literals. -/
def componentJson (names : List String) : Json :=
  .obj [("fields", .obj (names.map fun n => (n, .obj [("qualifier", .str "kotlin.String"),
    ("enum", .arr [.str "ON", .str "OFF"])])))]

/-- The fields of a login are called with a hyphen, and with a digit at the start; those of an
account are not. -/
def document : Json := .obj [("components", .obj [
  ("Login", componentJson ["user-status", "2nd_factor"]),
  ("Account", componentJson ["status", "second_factor"])])]

/-- A field with the literals. -/
def enumField (name : String) : Field :=
  { name := name, type := { qualifier := .str "kotlin.String" }, literals := ["ON", "OFF"] }

def catalog : Catalog := [
  ("Login", {
    name := "Login"
    fields := [enumField "user-status", enumField "2nd_factor"]
    distinct := by decide }),
  ("Account", {
    name := "Account"
    fields := [enumField "status", enumField "second_factor"]
    distinct := by decide })]

def schema : Schema := .tied catalog

/-- A class whose fields have enumerations of the given names. -/
def classTree (name : String) (fields : List (String × String)) : Descriptor :=
  .single (.named name)
    (fields.map fun (f, t) => { name := f, type := t, enum := some ⟨t, ["ON", "OFF"]⟩ })

theorem load_document : Document.load document = .ok catalog := rfl

theorem ofCatalog_catalog : Schema.ofCatalog catalog = .ok schema := rfl

/-- The generator of a language with default settings. -/
def plain (language : Language) : Generator := ⟨language, {}⟩

theorem classes_kotlin_account : (plain .kotlin).classes {} schema (1 : Fin 2) none =
    .ok (classTree "Account" [("status", "Status"), ("second_factor", "Second_factor")]) := rfl

theorem classes_python_account : (plain .python).classes {} schema (1 : Fin 2) none =
    .ok (classTree "Account" [("status", "Status"), ("second_factor", "SecondFactor")]) := rfl

theorem classes_kotlin_login : (plain .kotlin).classes {} schema (0 : Fin 2) none =
    .ok (classTree "Login" [("user-status", "User-status"), ("2nd_factor", "2nd_factor")]) := rfl

theorem classes_python_login : (plain .python).classes {} schema (0 : Fin 2) none =
    .ok (classTree "Login" [("user-status", "UserStatus"), ("2nd_factor", "2ndFactor")]) := rfl

theorem enumNames_kotlin_login :
    (plain .kotlin).enumNames
        (classTree "Login" [("user-status", "User-status"), ("2nd_factor", "2nd_factor")]) =
      .ok ["User-status", "2nd_factor"] := rfl

theorem enumNames_python_login :
    (plain .python).enumNames
        (classTree "Login" [("user-status", "UserStatus"), ("2nd_factor", "2ndFactor")]) =
      .ok ["UserStatus", "2ndFactor"] := rfl

end Logins

namespace Generator

open Logins

/-- The enumerations of an account are called by identifiers, in both languages. -/
theorem account_enumNames :
    (∃ r d names, (plain .kotlin).generate {} schema (1 : Fin 2) none = .ok r ∧
      (plain .kotlin).classes {} schema (1 : Fin 2) none = .ok d ∧
      (plain .kotlin).enumNames d = .ok names ∧ ∀ name ∈ names, Text.isIdentifier name = true) ∧
    ∃ r d names, (plain .python).generate {} schema (1 : Fin 2) none = .ok r ∧
      (plain .python).classes {} schema (1 : Fin 2) none = .ok d ∧
      (plain .python).enumNames d = .ok names ∧
      ∀ name ∈ names, Text.isIdentifier name = true := by
  have hkotlin : ∃ r, (plain .kotlin).generate {} schema (1 : Fin 2) none = .ok r := ⟨_, rfl⟩
  have hpython : ∃ r, (plain .python).generate {} schema (1 : Fin 2) none = .ok r := ⟨_, rfl⟩
  constructor
  · obtain ⟨r, h⟩ := hkotlin
    obtain ⟨d, _, names, hd, _, _, hnames, _, _, hiff⟩ := enumNames_identifiers_iff h
    refine ⟨r, d, names, h, hd, hnames, hiff.mpr ?_⟩
    rw [classes_kotlin_account] at hd
    cases hd
    decide
  · obtain ⟨r, h⟩ := hpython
    obtain ⟨d, _, names, hd, _, _, hnames, _, _, hiff⟩ := enumNames_identifiers_iff h
    refine ⟨r, d, names, h, hd, hnames, hiff.mpr ?_⟩
    rw [classes_python_account] at hd
    cases hd
    decide

/-- **Enumerations can be called by what is no identifier**: those of a login are, in Kotlin by a
hyphen in a name, and in both languages by a digit at the start. -/
theorem not_all_enumNames_identifiers :
    (¬ ∀ (document : Json) (catalog : Catalog) (s : Schema) (i : s.Id) (settings : Settings)
      (files : Files.Tree) (r : Generated) (d : Descriptor) (names : List String),
      Document.load document = .ok catalog → Schema.ofCatalog catalog = .ok s →
      Generator.generate ⟨.kotlin, settings⟩ files s i none = .ok r →
      Generator.classes ⟨.kotlin, settings⟩ files s i none = .ok d →
      Generator.enumNames ⟨.kotlin, settings⟩ d = .ok names →
      ∀ name ∈ names, Text.isIdentifier name = true) ∧
    ¬ ∀ (document : Json) (catalog : Catalog) (s : Schema) (i : s.Id) (settings : Settings)
      (files : Files.Tree) (r : Generated) (d : Descriptor) (names : List String),
      Document.load document = .ok catalog → Schema.ofCatalog catalog = .ok s →
      Generator.generate ⟨.python, settings⟩ files s i none = .ok r →
      Generator.classes ⟨.python, settings⟩ files s i none = .ok d →
      Generator.enumNames ⟨.python, settings⟩ d = .ok names →
      ∀ name ∈ names, Text.isIdentifier name = true := by
  have hkotlin : ∃ r, (plain .kotlin).generate {} schema (0 : Fin 2) none = .ok r := ⟨_, rfl⟩
  have hpython : ∃ r, (plain .python).generate {} schema (0 : Fin 2) none = .ok r := ⟨_, rfl⟩
  constructor
  · intro hall
    obtain ⟨r, h⟩ := hkotlin
    have hlegal := hall document catalog schema (0 : Fin 2) {} {} r _ _ load_document
      ofCatalog_catalog h classes_kotlin_login enumNames_kotlin_login
    exact absurd (hlegal "User-status" List.mem_cons_self) (by decide)
  · intro hall
    obtain ⟨r, h⟩ := hpython
    have hlegal := hall document catalog schema (0 : Fin 2) {} {} r _ _ load_document
      ofCatalog_catalog h classes_python_login enumNames_python_login
    exact absurd (hlegal "2ndFactor" (List.mem_cons_of_mem _ List.mem_cons_self)) (by decide)

end Generator
end ClassModel
