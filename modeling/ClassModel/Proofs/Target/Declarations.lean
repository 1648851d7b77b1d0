import ClassModel.Proofs.Compile.Origin
import ClassModel.Proofs.Target.EnumTable
import ClassModel.Schema.Document
import ClassModel.Target.KotlinWriter
import ClassModel.Target.PythonWriter

/-!
# The names that a file declares

A file declares each class of a tree where it stands, and each enumeration once. So a class that
several unions share, or that one mapping lists twice, is declared once for each route that leads
to it, and an enumeration can have the name of a class. Nothing else makes two declarations of one
name (`declared_once_iff`), in either language.
-/

set_option autoImplicit false

namespace ClassModel

/-- `s.NamesOnce i`: no two routes of mappings lead from `i` to one name. -/
def Schema.NamesOnce (s : Schema) (i : s.Id) : Prop :=
  ∀ route route' j l, s.follow? i route = some j → s.follow? i route' = some l →
    s.name j = s.name l → route = route'

namespace Compiler

variable {k : Compiler} {s : Schema} {inherit : Bool} {i : s.Id} {d : Descriptor}

/-- The names of a tree are those of the components that its routes lead to. -/
theorem namesOnce_iff_of_compile (h : k.compile s i inherit = .ok d) :
    d.NamesOnce ↔ s.NamesOnce i := by
  have hclass := classOf_of_compile h
  constructor
  · intro hd route route' j l hj hl hname
    obtain ⟨a, ha, hca⟩ := hclass.exists_at? hj
    obtain ⟨b, hb, hcb⟩ := hclass.exists_at? hl
    exact hd route route' a b ha hb (by rw [hca.name_eq, hcb.name_eq, hname])
  · intro hs route route' a b ha hb hname
    obtain ⟨j, hj, hca⟩ := hclass.of_at? ha
    obtain ⟨l, hl, hcb⟩ := hclass.of_at? hb
    exact hs route route' j l hj hl (by rw [← hca.name_eq, ← hcb.name_eq, hname])

/-- No class of the tree lists a field whose enumeration has the name of a component that a route
leads to. -/
def EnumsApart (s : Schema) (i : s.Id) (d : Descriptor) : Prop :=
  ∀ route u, d.at? route = some u → ∀ f ∈ u.ownFields, ∀ e, f.enum = some e →
    ∀ route' j, s.follow? i route' = some j → e.name ≠ s.name j

theorem enumsApart_iff (h : k.compile s i inherit = .ok d) :
    EnumsApart s i d ↔ ∀ n ∈ d.preorder.map (·.name),
      ¬ ∃ f ∈ d.preorder.flatMap (·.ownFields), EnumTable.HasEnum f n := by
  have hclass := classOf_of_compile h
  constructor
  · rintro hs n hn ⟨f, hf, e, he, rfl⟩
    obtain ⟨u, hu, hf⟩ := List.mem_flatMap.mp hf
    obtain ⟨route, hu⟩ := Descriptor.mem_preorder_iff.mp hu
    obtain ⟨route', v, hv, hname⟩ := Descriptor.mem_names_preorder_iff.mp hn
    obtain ⟨j, hj, hcv⟩ := hclass.of_at? hv
    exact hs route u hu f hf e he route' j hj (by rw [← hname, hcv.name_eq])
  · intro hd route u hu f hf e he route' j hj hname
    obtain ⟨v, hv, hcv⟩ := hclass.exists_at? hj
    refine hd e.name ?_ ⟨f, ?_, e, he, rfl⟩
    · rw [hname, ← hcv.name_eq]
      exact Descriptor.mem_names_preorder_iff.mpr ⟨route', v, hv, rfl⟩
    · exact List.mem_flatMap.mpr ⟨u, Descriptor.mem_preorder_iff.mpr ⟨route, hu⟩, hf⟩

/-- The names of the classes of a tree and of its table of enumerations. -/
theorem nodup_declared_iff (h : k.compile s i inherit = .ok d) {table : EnumTable}
    (ht : EnumTable.addAll [] (d.preorder.flatMap (·.ownFields)) = .ok table) :
    (d.preorder.map (·.name) ++ table.classes.map (·.name)).Nodup ↔
      s.NamesOnce i ∧ EnumsApart s i d := by
  obtain ⟨hkeyed, hnames⟩ := EnumTable.addAll_spec ht EnumTable.keyed_nil
  have hmem : ∀ n, n ∈ table.classes.map (·.name) ↔
      ∃ f ∈ d.preorder.flatMap (·.ownFields), EnumTable.HasEnum f n := by
    intro n
    rw [hkeyed.names_eq, hnames]
    simp [Entries.keys]
  have henums : (table.classes.map (·.name)).Nodup := by
    rw [hkeyed.names_eq]
    exact hkeyed.nodup
  rw [List.nodup_append', ← namesOnce_iff_of_compile h, ← Descriptor.nodup_names_preorder_iff,
    enumsApart_iff h]
  constructor
  · rintro ⟨hclasses, _, hdisjoint⟩
    refine ⟨hclasses, ?_⟩
    intro n hn he
    exact hdisjoint hn ((hmem n).mpr he)
  · rintro ⟨hclasses, hapart⟩
    refine ⟨hclasses, henums, ?_⟩
    intro n hn he
    exact hapart n hn ((hmem n).mp he)

end Compiler

/-! ## The two languages -/

theorem Descriptor.flatMap_ownFields_placed (d : Descriptor) :
    (d.placed none).flatMap (·.2.ownFields) = d.preorder.flatMap (·.ownFields) := by
  rw [preorder, List.flatMap_map]

theorem Descriptor.map_name_placed (d : Descriptor) :
    (d.placed none).map (·.2.name) = d.preorder.map (·.name) := by
  rw [preorder, List.map_map]
  rfl

namespace KotlinFile

variable {settings : Settings} {d : Descriptor} {file : KotlinFile}

/-- The names that a file declares. -/
def declaredNames (file : KotlinFile) : List String := file.declarations.map (·.name)

theorem name_classOf (above : Option Descriptor) (d : Descriptor) :
    (classOf settings above d).name = d.name := by
  cases d <;> rfl

/-- A file declares the classes of the tree, then the enumerations of their fields. -/
theorem declaredNames_eq (hf : ofDescriptor settings d = .ok file) :
    ∃ table, EnumTable.addAll [] (d.preorder.flatMap (·.ownFields)) = .ok table ∧
      file.declaredNames = d.preorder.map (·.name) ++ table.classes.map (·.name) := by
  rw [ofDescriptor] at hf
  split at hf
  · cases hf
  · next table ht =>
    split at hf
    · cases hf
    · cases hf
      rw [d.flatMap_ownFields_placed] at ht
      refine ⟨table, ht, ?_⟩
      rw [declaredNames, declarations, fileWith, List.map_append, List.map_map, List.map_map,
        ← d.map_name_placed]
      congr 1
      refine List.map_congr_left ?_
      intro p _
      exact name_classOf p.1 p.2

end KotlinFile

namespace PythonModule

variable {settings : Settings} {o : Options} {d : Descriptor} {m : PythonModule}
  {table table' : EnumTable} {cs : List Class} {ps : List (Option Descriptor × Descriptor)}

/-- The names that a module declares. -/
def declaredNames (m : PythonModule) : List String :=
  m.enums.map (·.name) ++ m.classes.map (·.name)

/-- The classes of a module are those of the tree, and its table has the enumerations of all of
their fields. -/
theorem classesOf_spec (h : classesOf o table ps = .ok (cs, table')) :
    cs.map (·.name) = ps.map (·.2.name) ∧
      table.addAll (ps.flatMap (·.2.ownFields)) = .ok table' := by
  induction ps generalizing table cs with
  | nil =>
    cases h
    exact ⟨rfl, rfl⟩
  | cons p rest ih =>
    obtain ⟨above, e⟩ := p
    rw [classesOf] at h
    split at h
    · cases h
    · next c hc =>
      have hname : c.name = e.name := by
        rw [classOf] at hc
        split at hc
        · cases hc
        · cases hc
          rfl
      split at h
      · cases h
      · next next hnext =>
        split at h
        · cases h
        · split at h
          · cases h
          · next hrest =>
            cases h
            obtain ⟨hnames, htable⟩ := ih hrest
            refine ⟨?_, ?_⟩
            · rw [List.map_cons, List.map_cons, hnames, hname]
            · exact EnumTable.addAll_append_eq_ok.mpr ⟨_, hnext, htable⟩

/-- A module declares the enumerations of the fields, then the classes of the tree. -/
theorem declaredNames_eq (hm : ofDescriptor settings d = .ok m) :
    ∃ table, EnumTable.addAll [] (d.preorder.flatMap (·.ownFields)) = .ok table ∧
      m.declaredNames = table.classes.map (·.name) ++ d.preorder.map (·.name) := by
  rw [ofDescriptor] at hm
  split at hm
  · cases hm
  · next classes table hc =>
    split at hm
    · cases hm
    · cases hm
      obtain ⟨hnames, ht⟩ := classesOf_spec hc
      rw [d.flatMap_ownFields_placed] at ht
      refine ⟨table, ht, ?_⟩
      rw [declaredNames, moduleWith, hnames, d.map_name_placed, List.map_map]
      rfl

end PythonModule

/-! ## A document with a shared leaf -/

namespace Sharing

/-- A plain component whose type is the given literal. -/
def leafJson (literal : String) : Json :=
  .obj [("fields", .obj [("type", .obj [("qualifier", .str "kotlin.String"),
    ("enum", .arr [.str literal]), ("required", .bool true)])])]

/-- A union with the given mapping. -/
def unionJson (mapping : List (String × Json)) : Json :=
  .obj [("discriminator", .obj [("field", .str "type"), ("mapping", .obj mapping)])]

/-- The outer union lists the card, and the inner union that lists it too. -/
def document : Json := .obj [("components", .obj [
  ("Outer", unionJson [("INNER", .str "Inner"), ("CARD", .str "Card")]),
  ("Inner", unionJson [("CARD", .str "Card"), ("BANK", .str "Bank")]),
  ("Card", leafJson "CARD"), ("Bank", leafJson "BANK")])]

def leaf (name literal : String) : Component String where
  name := name
  fields := [{ name := "type", type := { qualifier := .str "kotlin.String" },
               literals := [literal], required := true }]
  distinct := by simp

def union (name : String) (mapping : Entries String) : Component String where
  name := name
  fields := []
  discriminator := some ⟨.str "type", mapping⟩
  distinct := List.nodup_nil

/-- The components of the document. -/
def catalog : Catalog := [
  ("Outer", union "Outer" [("INNER", "Inner"), ("CARD", "Card")]),
  ("Inner", union "Inner" [("CARD", "Card"), ("BANK", "Bank")]),
  ("Card", leaf "Card" "CARD"), ("Bank", leaf "Bank" "BANK")]

def schema : Schema := .tied catalog

theorem load_document : Document.load document = .ok catalog := rfl

theorem ofCatalog_catalog : Schema.ofCatalog catalog = .ok schema := rfl

def plainClass (name : String) : Descriptor := .single (.named name) []

def unionClass (name : String) (tags : Entries String) (subclasses : List Descriptor) :
    Descriptor :=
  .union (.named name) (.str "type") [] tags subclasses

def innerClass : Descriptor :=
  unionClass "Inner" [("Card", "CARD"), ("Bank", "BANK")] [plainClass "Card", plainClass "Bank"]

def outerClass : Descriptor :=
  unionClass "Outer" [("Card", "CARD"), ("Bank", "BANK")] [innerClass, plainClass "Card"]

theorem compile_inner : ({} : Compiler).compile schema (1 : Fin 4) true = .ok innerClass := rfl

theorem compile_outer : ({} : Compiler).compile schema (0 : Fin 4) true = .ok outerClass := rfl

end Sharing

namespace Compiler

variable {k : Compiler} {s : Schema} {inherit : Bool} {i : s.Id} {d : Descriptor}

/-- **A file declares every name once exactly if no two routes of mappings lead to one name**, and
no field has an enumeration that is named like a class. -/
theorem declared_once_iff (h : k.compile s i inherit = .ok d) (settings : Settings) :
    (∀ file, KotlinFile.ofDescriptor settings d = .ok file →
      (file.declaredNames.Nodup ↔ s.NamesOnce i ∧ EnumsApart s i d)) ∧
    ∀ m, PythonModule.ofDescriptor settings d = .ok m →
      (m.declaredNames.Nodup ↔ s.NamesOnce i ∧ EnumsApart s i d) := by
  constructor
  · intro file hf
    obtain ⟨table, ht, hnames⟩ := KotlinFile.declaredNames_eq hf
    rw [hnames]
    exact nodup_declared_iff h ht
  · intro m hm
    obtain ⟨table, ht, hnames⟩ := PythonModule.declaredNames_eq hm
    rw [hnames, List.nodup_append_comm]
    exact nodup_declared_iff h ht

open Sharing

/-- The inner union declares every name once, in both languages. -/
theorem inner_declared_once :
    ∃ file m, KotlinFile.ofDescriptor {} innerClass = .ok file ∧
      PythonModule.ofDescriptor {} innerClass = .ok m ∧ file.declaredNames.Nodup ∧
      m.declaredNames.Nodup ∧ schema.NamesOnce (1 : Fin 4) := by
  obtain ⟨hkotlin, hpython⟩ := declared_once_iff compile_inner {}
  have hfile : ∃ file, KotlinFile.ofDescriptor {} innerClass = .ok file ∧
      file.declaredNames.Nodup := ⟨_, rfl, by decide⟩
  have hmodule : ∃ m, PythonModule.ofDescriptor {} innerClass = .ok m := ⟨_, rfl⟩
  obtain ⟨file, hf, hnodup⟩ := hfile
  obtain ⟨m, hm⟩ := hmodule
  have hapart := (hkotlin file hf).mp hnodup
  exact ⟨file, m, hf, hm, hnodup, (hpython m hm).mpr hapart, hapart.1⟩

/-- **A shared leaf is declared twice**: once below each union that lists it. -/
theorem not_all_declared_once :
    ¬ ∀ (document : Json) (catalog : Catalog) (s : Schema) (i : s.Id) (k : Compiler)
      (inherit : Bool) (d : Descriptor) (settings : Settings) (file : KotlinFile),
      Document.load document = .ok catalog → Schema.ofCatalog catalog = .ok s →
      k.compile s i inherit = .ok d → KotlinFile.ofDescriptor settings d = .ok file →
      file.declaredNames.Nodup := by
  intro hall
  have hfile : ∃ file, KotlinFile.ofDescriptor {} outerClass = .ok file ∧
      ¬ file.declaredNames.Nodup := ⟨_, rfl, by decide⟩
  obtain ⟨file, hf, hrepeated⟩ := hfile
  exact hrepeated (hall document catalog schema (0 : Fin 4) {} true outerClass {} file
    load_document ofCatalog_catalog compile_outer hf)

end Compiler
end ClassModel
