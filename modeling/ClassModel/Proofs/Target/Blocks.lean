import ClassModel.Generator.Basic
import ClassModel.Proofs.Descriptor.DepthFirst
import ClassModel.Proofs.Target.EnumsDeclared
import ClassModel.Proofs.Target.KotlinOverride

/-!
# The blocks of a file

Both languages write a tree as a list of blocks, and say in each block of a class which class is
above it. Here the blocks are compared with the places of the tree: the block at a position is that
of the class at the route at the same position (`blocks_follow_tree`). Since a route comes after
the one to the union above, a class is defined after the class that it is derived from, and since a
Python module has its enumerations first, these are defined before any class.

A union without a name is the exception. Its name is written as no supertype at all, like that of
the union above the root, which does not exist (`not_all_supertypes_written`).
-/

set_option autoImplicit false

namespace ClassModel

/-- `d.BlockAt r name parent`: the class at the end of the route `r` has the name `name`, and
`parent` is the name of the union right above it. The root has none, and a name without characters
counts as none. -/
structure Descriptor.BlockAt (d : Descriptor) (r : List Nat) (name : String)
    (parent : Option String) : Prop where
  named : ∃ e, d.at? r = some e ∧ e.name = name
  root : r = [] → parent = none
  below : r ≠ [] → ∃ u, d.at? r.dropLast = some u ∧
    parent = if u.name = "" then none else some u.name

theorem Target.parentName_some (u : Descriptor) :
    parentName (some u) = if u.name = "" then none else some u.name := by
  by_cases h : u.name = ""
  · simp [parentName, h]
  · simp [parentName, h, Option.filter]

namespace Descriptor

variable {d : Descriptor} {r : List Nat} {name : String} {parent : Option String}

theorem blockAt_of_placed {p : Option Descriptor × Descriptor} (hclass : d.at? r = some p.2)
    (hover : d.Over none r p.1) : d.BlockAt r p.2.name (Target.parentName p.1) := by
  obtain ⟨hroot, hbelow⟩ := hover
  refine ⟨⟨p.2, hclass, rfl⟩, ?_, ?_⟩
  · intro h
    rw [hroot h]
    rfl
  · intro h
    obtain ⟨u, hu, ha⟩ := hbelow h
    exact ⟨u, hu, by rw [ha, Target.parentName_some]⟩

/-- A class that names one above it stands below a class of that name. -/
theorem BlockAt.exists_base {p : String} (h : d.BlockAt r name (some p)) :
    r ≠ [] ∧ ∃ u, d.at? r.dropLast = some u ∧ u.name = p := by
  have hr : r ≠ [] := by
    intro hr
    cases h.root hr
  obtain ⟨u, hu, hp⟩ := h.below hr
  refine ⟨hr, u, hu, ?_⟩
  split at hp
  · cases hp
  · exact (Option.some.inj hp).symm

/-- Where blocks stand beside the routes, one that names a class above it comes after a block of
that name. -/
theorem exists_base_before {β : Type} {nameOf : β → String} {parentOf : β → Option String}
    {blocks : List β}
    (h : List.Forall₂ (fun r b => d.BlockAt r (nameOf b) (parentOf b)) d.routes blocks) {n : Nat}
    {b : β} {p : String} (hb : blocks[n]? = some b) (hp : parentOf b = some p) :
    ∃ l < n, ∃ base, blocks[l]? = some base ∧ nameOf base = p := by
  obtain ⟨r, hr, hat⟩ := exists_left_of_getElem? h hb
  rw [hp] at hat
  obtain ⟨hne, u, hu, hname⟩ := hat.exists_base
  obtain ⟨l, hl⟩ := List.getElem?_of_mem (mem_routes_iff.mpr ⟨u, hu⟩)
  obtain ⟨base, hbase, hat'⟩ := exists_right_of_getElem? h hl
  refine ⟨l, lt_of_earlier (pairwise_routes d) hl hr (earlier_dropLast hne), base, hbase, ?_⟩
  obtain ⟨e, he, hname'⟩ := hat'.named
  rw [hu] at he
  cases he
  rw [← hname', hname]

end Descriptor

/-! ## Kotlin -/

namespace KotlinFile

variable {settings : Settings} {indent text : String} {d : Descriptor} {file : KotlinFile}

/-- The class above a class, as its declaration names it. An enumeration names none. -/
def Declaration.parent : Declaration → Option String
  | .dataClass _ parent _ | .sealedClass _ parent _ _ => parent
  | .enumClass _ _ => none

/-- Does the declaration declare a class that is no enumeration? -/
def Declaration.isClass : Declaration → Bool
  | .dataClass _ _ _ | .sealedClass _ _ _ _ => true
  | .enumClass _ _ => false

/-- What a file holds before its declarations. -/
def opening (file : KotlinFile) : String :=
  Target.headerText "//" file.header ++
  (match file.package with
    | none => ""
    | some p => "package " ++ p ++ "\n\n") ++
  String.join (file.imports.map fun i => "import " ++ i ++ "\n") ++
  (if file.imports.isEmpty then "" else "\n")

theorem text_eq_opening (indent : String) (file : KotlinFile) :
    file.text indent =
      file.opening ++ "\n".intercalate (file.declarations.map (·.text indent)) ++ "\n" := rfl

theorem write_eq_ok_iff : write settings d = .ok text ↔
    ∃ indent file, settings.indent = .ok indent ∧ ofDescriptor settings d = .ok file ∧
      text = file.text indent := by
  rw [write]
  cases settings.indent with
  | error m => simp
  | ok indent =>
    cases ofDescriptor settings d with
    | error e => simp [Except.map]
    | ok file => simp [Except.map, eq_comm]

theorem parent_classOf (above : Option Descriptor) (e : Descriptor) :
    (classOf settings above e).parent = Target.parentName above := by
  cases e <;> rfl

/-- The enumerations of a file are the first ones of each name. -/
theorem enums_eq (hf : ofDescriptor settings d = .ok file) :
    file.enums = d.distinctEnums.map enumOf := by
  rw [ofDescriptor] at hf
  split at hf
  · cases hf
  · next table ht =>
    split at hf
    · cases hf
    · cases hf
      rcases EnumTable.addAll_placed d with ⟨_, table', hclasses, hok⟩ | ⟨_, _, _, _, herr⟩
      · rw [ht] at hok
        cases hok
        rw [fileWith, hclasses]
      · rw [ht] at herr
        cases herr

/-- The class blocks among the declarations of a file are the classes. -/
theorem filter_isClass (hf : ofDescriptor settings d = .ok file) :
    file.declarations.filter (·.isClass) = file.classes := by
  have hclasses : ∀ c ∈ file.classes, c.isClass = true := by
    intro c hc
    obtain ⟨above, e, _, rfl⟩ := (mem_classes_iff hf).mp hc
    cases e <;> rfl
  have henums : ∀ c ∈ file.enums, ¬ c.isClass = true := by
    intro c hc
    rw [enums_eq hf] at hc
    obtain ⟨e, _, rfl⟩ := List.mem_map.mp hc
    simp [enumOf, Declaration.isClass]
  rw [declarations, List.filter_append, List.filter_eq_self.mpr hclasses,
    List.filter_eq_nil_iff.mpr henums, List.append_nil]

theorem forall₂_blocks (hf : ofDescriptor settings d = .ok file) :
    List.Forall₂ (fun r c => d.BlockAt r c.name c.parent) d.routes file.classes := by
  rw [classes_eq hf, List.forall₂_map_right_iff]
  refine (d.forall₂_placed none).imp ?_
  intro r p hp
  rw [name_classOf, parent_classOf]
  exact Descriptor.blockAt_of_placed hp.1 hp.2

end KotlinFile

/-! ## Python -/

namespace PythonModule

variable {settings : Settings} {o : Options} {indent text : String} {d : Descriptor}
  {m : PythonModule} {above : Option Descriptor} {e : Descriptor} {c : Class}
  {table table' : EnumTable} {cs : List Class} {ps : List (Option Descriptor × Descriptor)}

/-- What a module holds before its declarations. -/
def opening (m : PythonModule) : String :=
  Target.headerText "#" m.header ++ String.join (m.imports.lines.map (· ++ "\n")) ++ "\n\n"

theorem text_eq_opening (indent : String) (m : PythonModule) :
    m.text indent = m.opening ++ "\n\n".intercalate
      (m.enums.map (·.text indent) ++ m.classes.map (·.text indent m.options)) ++ "\n" := rfl

theorem write_eq_ok_iff : write settings d = .ok text ↔ ∃ indent m,
    settings.indent = .ok indent ∧ ofDescriptor settings d = .ok m ∧ text = m.text indent := by
  rw [write]
  cases settings.indent with
  | error m => simp
  | ok indent =>
    cases ofDescriptor settings d with
    | error e => simp [Except.map]
    | ok m => simp [Except.map, eq_comm]

/-- A dataclass is written of a class whose constants can be named. -/
theorem classOf_eq_ok_iff : classOf o above e = .ok c ↔ ∃ constants,
    constantsOf above e = .ok constants ∧
      c = ⟨e.name, Target.parentName above, constants,
        (ordered o (declaredFields above e)).map attributeOf⟩ := by
  rw [classOf]
  cases constantsOf above e with
  | error f => simp
  | ok constants => simp [eq_comm]

/-- Sorting keeps the fields. -/
theorem perm_ordered (o : Options) (fs : List ResolvedField) : (ordered o fs).Perm fs := by
  rw [ordered]
  split
  · exact .refl _
  · exact List.filter_append_perm _ _

/-- The constants of a class: the discriminator of a union, none at the root, else the tag that
the union above has for the leaf. -/
theorem constantsOf_cases {ks : List Constant} (h : constantsOf above e = .ok ks) :
    (e.isUnion = true ∧ ks = [⟨"__discriminator__", e.discriminator⟩]) ∨
    (e.isUnion = false ∧ above = none ∧ ks = []) ∨
    ∃ u name t, e.isUnion = false ∧ above = some u ∧ tagName u.discriminator = .ok name ∧
      u.tags.get? e.name = some t ∧ ks = [⟨name, .str t⟩] := by
  cases e with
  | union head discriminator common tags subclasses =>
    cases h
    exact Or.inl ⟨rfl, rfl⟩
  | single head fields =>
    cases above with
    | none =>
      cases h
      exact Or.inr (Or.inl ⟨rfl, rfl, rfl⟩)
    | some u =>
      rw [constantsOf] at h
      split at h
      · cases h
      · next name hname =>
        split at h
        · cases h
        · next t ht =>
          cases h
          exact Or.inr (Or.inr ⟨u, name, t, rfl, rfl, hname, ht, rfl⟩)

theorem forall₂_classesOf (h : classesOf o table ps = .ok (cs, table')) :
    List.Forall₂ (fun p c => classOf o p.1 p.2 = .ok c) ps cs := by
  induction ps generalizing table cs with
  | nil =>
    cases h
    exact .nil
  | cons p rest ih =>
    obtain ⟨above, e⟩ := p
    rw [classesOf] at h
    split at h
    · cases h
    · next c hc =>
      split at h
      · cases h
      · split at h
        · cases h
        · split at h
          · cases h
          · next hrest =>
            cases h
            exact .cons hc (ih hrest)

/-- The parts of a module: its classes stand item by item beside those of the tree, and its
enumerations are the first ones of each name. -/
theorem parts_of_ofDescriptor (hm : ofDescriptor settings d = .ok m) :
    List.Forall₂ (fun p c => classOf (optionsOf settings) p.1 p.2 = .ok c) (d.placed none)
        m.classes ∧
      ¬ d.EnumsClash ∧ m.enums = d.distinctEnums.map enumOf ∧ m.options = optionsOf settings := by
  rw [ofDescriptor] at hm
  split at hm
  · cases hm
  · next classes table hc =>
    split at hm
    · cases hm
    · cases hm
      obtain ⟨_, htable⟩ := classesOf_spec hc
      rcases EnumTable.addAll_placed d with ⟨hnot, table', hclasses, hok⟩ | ⟨_, _, _, _, herr⟩
      · rw [htable] at hok
        cases hok
        refine ⟨forall₂_classesOf hc, hnot, ?_, rfl⟩
        rw [moduleWith, hclasses]
      · rw [htable] at herr
        cases herr

theorem exists_class_of_site {unions : List Descriptor} (hm : ofDescriptor settings d = .ok m)
    (hs : d.Site unions e) :
    ∃ c ∈ m.classes, classOf (optionsOf settings) unions.getLast? e = .ok c := by
  obtain ⟨hclasses, _⟩ := parts_of_ofDescriptor hm
  have hp : (unions.getLast?, e) ∈ d.placed none :=
    Descriptor.mem_placed_none_iff.mpr ⟨unions, hs, rfl⟩
  exact exists_right_of_forall₂ hclasses hp

/-- The dataclasses of a module are those at the sites of the tree it is written from. -/
theorem mem_classes_iff (hm : ofDescriptor settings d = .ok m) : c ∈ m.classes ↔
    ∃ unions e, d.Site unions e ∧ classOf (optionsOf settings) unions.getLast? e = .ok c := by
  constructor
  · intro hc
    obtain ⟨hclasses, _⟩ := parts_of_ofDescriptor hm
    obtain ⟨⟨a, e⟩, hp, hclass⟩ := exists_left_of_forall₂ hclasses hc
    obtain ⟨unions, hs, rfl⟩ := Descriptor.mem_placed_none_iff.mp hp
    exact ⟨unions, e, hs, hclass⟩
  · intro h
    obtain ⟨unions, e, hs, hclass⟩ := h
    obtain ⟨c', hc', hclass'⟩ := exists_class_of_site hm hs
    rw [hclass] at hclass'
    cases hclass'
    exact hc'

theorem forall₂_blocks (hm : ofDescriptor settings d = .ok m) :
    List.Forall₂ (fun r c => d.BlockAt r c.name c.parent) d.routes m.classes := by
  obtain ⟨hclasses, _⟩ := parts_of_ofDescriptor hm
  refine (comp_of_forall₂ (d.forall₂_placed none) hclasses).imp ?_
  intro r c h
  obtain ⟨p, hp, hc⟩ := h
  obtain ⟨_, _, rfl⟩ := classOf_eq_ok_iff.mp hc
  exact Descriptor.blockAt_of_placed hp.1 hp.2

end PythonModule

/-! ## Both languages -/

/-- What is generated reports the number of classes of the tree that it is written from. -/
theorem Generator.classCount_of_generateWith {g : Generator} {provided : Entries String}
    {s : Schema} {i : s.Id} {inheritance : Option Json} {r : Generated}
    (h : g.generateWith provided s i inheritance = .ok r) : ∃ d raw,
      g.classesWith provided s i inheritance = .ok d ∧ g.write d = .ok raw ∧
        r.code = Text.tidy raw ∧ r.classCount = d.classCount := by
  rw [generateWith] at h
  split at h
  · cases h
  · next d hd =>
    split at h
    · cases h
    · next raw hraw =>
      cases h
      exact ⟨d, raw, hd, hraw, rfl, rfl⟩

/-- What is generated is the text of the tree that the component compiles to. -/
theorem Generator.exists_tree_of_generate {g : Generator} {files : Files.Tree} {s : Schema}
    {i : s.Id} {inheritance : Option Json} {r : Generated}
    (h : g.generate files s i inheritance = .ok r) : ∃ provided d raw,
      g.providedTypes files = .ok provided ∧
        (g.compiler provided).compile s i (g.inheritanceOf inheritance).isSet = .ok d ∧
        g.classes files s i inheritance = .ok d ∧ g.write d = .ok raw ∧
        r.code = Text.tidy raw := by
  rw [generate] at h
  rw [classes]
  split at h
  · cases h
  · next provided hprovided =>
    obtain ⟨d, raw, hd, hraw, hcode, _⟩ := classCount_of_generateWith h
    refine ⟨provided, d, raw, hprovided, ?_, hd, hraw, hcode⟩
    rw [classesWith] at hd
    split at hd
    · next hcompile =>
      cases hd
      exact hcompile
    · cases hd

namespace Target

/-- **The blocks of a file are the classes of its tree, one for each, in depth-first order**, and
each names the union right above it, if that has a name. There are as many as the tree has classes,
and as what is generated reports. In a Python module the enumerations come first, so a class is
defined after the enumerations of its fields and after a class of the name that it is derived
from. -/
theorem blocks_follow_tree :
    (∀ d : Descriptor, d.routes.Pairwise Earlier ∧ ∀ r, r ∈ d.routes ↔ ∃ e, d.at? r = some e) ∧
    (∀ settings d text, KotlinFile.write settings d = .ok text → ∃ indent file,
      KotlinFile.ofDescriptor settings d = .ok file ∧
      text = file.opening ++ "\n".intercalate (file.declarations.map (·.text indent)) ++ "\n" ∧
      List.Forall₂ (fun r c => d.BlockAt r c.name c.parent) d.routes
        (file.declarations.filter (·.isClass)) ∧
      (file.declarations.filter (·.isClass)).length = d.classCount) ∧
    (∀ settings d text, PythonModule.write settings d = .ok text → ∃ indent m,
      PythonModule.ofDescriptor settings d = .ok m ∧
      text = m.opening ++ "\n\n".intercalate
        (m.enums.map (·.text indent) ++ m.classes.map (·.text indent m.options)) ++ "\n" ∧
      List.Forall₂ (fun r c => d.BlockAt r c.name c.parent) d.routes m.classes ∧
      m.classes.length = d.classCount ∧
      (∀ r u, d.at? r = some u → ∀ e ∈ u.enums, PythonModule.enumOf e ∈ m.enums) ∧
      ∀ (n : Nat) (c : PythonModule.Class) (p : String), m.classes[n]? = some c →
        c.parent = some p → ∃ l < n, ∃ base : PythonModule.Class,
          m.classes[l]? = some base ∧ base.name = p) ∧
    ∀ (g : Generator) (provided : Entries String) (s : Schema) (i : s.Id)
      (inheritance : Option Json) (r : Generator.Generated),
      g.generateWith provided s i inheritance = .ok r → ∃ d raw,
        g.classesWith provided s i inheritance = .ok d ∧ g.write d = .ok raw ∧
          r.code = Text.tidy raw ∧ r.classCount = d.classCount := by
  refine ⟨?_, ?_, ?_, ?_⟩
  · intro d
    exact ⟨d.pairwise_routes, fun r => Descriptor.mem_routes_iff⟩
  · intro settings d text h
    obtain ⟨indent, file, _, hf, rfl⟩ := KotlinFile.write_eq_ok_iff.mp h
    have hblocks := KotlinFile.forall₂_blocks hf
    refine ⟨indent, file, hf, KotlinFile.text_eq_opening indent file, ?_, ?_⟩
    · rw [KotlinFile.filter_isClass hf]
      exact hblocks
    · rw [KotlinFile.filter_isClass hf, ← hblocks.length_eq, d.length_routes]
  · intro settings d text h
    obtain ⟨indent, m, _, hm, rfl⟩ := PythonModule.write_eq_ok_iff.mp h
    have hblocks := PythonModule.forall₂_blocks hm
    obtain ⟨_, hclash, henums, _⟩ := PythonModule.parts_of_ofDescriptor hm
    refine ⟨indent, m, hm, PythonModule.text_eq_opening indent m, hblocks, ?_, ?_, ?_⟩
    · rw [← hblocks.length_eq, d.length_routes]
    · intro r u hu e he
      rw [henums]
      exact List.mem_map_of_mem (Descriptor.mem_distinctEnums hclash hu he)
    · -- A base comes before a class since a union comes before what is below it.
      intro n c p hc hp
      exact Descriptor.exists_base_before hblocks hc hp
  · intro g provided s i inheritance r h
    exact Generator.classCount_of_generateWith h

open Payments in
/-- The payments, the card, the transfers and the prepaid card are four blocks of a Kotlin file. -/
theorem payments_blocks :
    ({} : Compiler).compile schema (0 : Fin 3) true = .ok paymentClass ∧
    ∃ file, KotlinFile.ofDescriptor {} paymentClass = .ok file ∧
      List.Forall₂ (fun r c => paymentClass.BlockAt r c.name c.parent) [[], [0], [1], [1, 0]]
        (file.declarations.filter (·.isClass)) := by
  have hwritten : ∃ text, KotlinFile.write {} paymentClass = .ok text := ⟨_, rfl⟩
  obtain ⟨text, htext⟩ := hwritten
  obtain ⟨_, file, hf, _, hblocks, _⟩ := blocks_follow_tree.2.1 {} paymentClass text htext
  exact ⟨compile_schema, file, hf, hblocks⟩

end Target

/-! ## A union without a name -/

namespace Unnamed

open Sharing (leafJson unionJson leaf union)

/-- A card is told apart below a union with the empty name. -/
def document : Json := .obj [("components", .obj [
  ("", unionJson [("CARD", .str "Card")]), ("Card", leafJson "CARD")])]

def catalog : Catalog := [("", union "" [("CARD", "Card")]), ("Card", leaf "Card" "CARD")]

def schema : Schema := .tied catalog

def topClass : Descriptor := Sharing.unionClass "" [("Card", "CARD")] [Sharing.plainClass "Card"]

theorem load_document : Document.load document = .ok catalog := rfl

theorem ofCatalog_catalog : Schema.ofCatalog catalog = .ok schema := rfl

theorem compile_top : ({} : Compiler).compile schema (0 : Fin 2) true = .ok topClass := rfl

/-- **The name of a union need not be written below it**: the card stands below a union, and its
class names none. -/
theorem not_all_supertypes_written :
    ¬ ∀ (document : Json) (catalog : Catalog) (s : Schema) (i : s.Id) (k : Compiler)
      (inherit : Bool) (d : Descriptor) (settings : Settings) (file : KotlinFile),
      Document.load document = .ok catalog → Schema.ofCatalog catalog = .ok s →
      k.compile s i inherit = .ok d → KotlinFile.ofDescriptor settings d = .ok file →
      List.Forall₂ (fun r c => r ≠ [] → ∃ u, d.at? r.dropLast = some u ∧ c.parent = some u.name)
        d.routes file.classes := by
  intro hall
  have hfile : ∃ file, KotlinFile.ofDescriptor {} topClass = .ok file ∧
      file.classes[1]? = some (.dataClass "Card" none []) := ⟨_, rfl, rfl⟩
  obtain ⟨file, hf, hcard⟩ := hfile
  have hblocks := hall document catalog schema (0 : Fin 2) {} true topClass {} file load_document
    ofCatalog_catalog compile_top hf
  obtain ⟨r, hr, habove⟩ := exists_left_of_getElem? hblocks hcard
  cases hr
  obtain ⟨u, _, hparent⟩ := habove (by simp)
  cases hparent

end Unnamed
end ClassModel
