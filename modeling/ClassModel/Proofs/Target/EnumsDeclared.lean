import ClassModel.Proofs.Compile.Mirror
import ClassModel.Proofs.Target.Declarations
import ClassModel.Proofs.Target.EnumBatches
import ClassModel.Proofs.Target.PythonLookup

/-!
# The enumerations that a file declares

Both writers fill one table while they go through a tree, class by class; what one of them leaves
out of a class it still puts into the table. So the table of a tree that is written holds the first
enumeration of each name in depth-first order (`distinctEnums`), and no file is written of a tree in
which one name stands for two enumerations (`EnumsClash`).

Other values can stop the writers too: no constant is named after a discriminator that is no text,
and no import is read from a value that is none. With texts in these places the enumerations alone
decide whether there is a file.
-/

set_option autoImplicit false

namespace ClassModel

/-! ## The enumerations of a tree -/

namespace Descriptor

variable {d u : Descriptor} {e : EnumClass} {route : List Nat}

/-- The enumerations of all classes of a tree, depth first, repeats kept. -/
def treeEnums (d : Descriptor) : List EnumClass := d.preorder.flatMap (·.enums)

/-- The first enumeration of each name, depth first. -/
def distinctEnums (d : Descriptor) : List EnumClass :=
  firstByName EnumClass.name [] d.treeEnums

/-- Two fields anywhere in the tree have enumerations of one name with different literals. -/
def EnumsClash (d : Descriptor) : Prop :=
  ∃ route u route' u', d.at? route = some u ∧ d.at? route' = some u' ∧
    ∃ e ∈ u.enums, ∃ e' ∈ u'.enums, e.name = e'.name ∧ e.literals ≠ e'.literals

/-- What the unions of the tree tell their leaves apart by are texts. -/
def TextDiscriminators (d : Descriptor) : Prop :=
  ∀ route u, d.at? route = some u → u.isUnion = true → ∃ field, u.discriminator = .str field

/-- What the root imports are texts. -/
def TextImports (d : Descriptor) : Prop := ∀ q ∈ d.head.imports, ∃ text, q = .str text

theorem mem_treeEnums : e ∈ d.treeEnums ↔ ∃ route u, d.at? route = some u ∧ e ∈ u.enums := by
  unfold treeEnums
  rw [List.mem_flatMap]
  constructor
  · intro h
    obtain ⟨u, hu, he⟩ := h
    obtain ⟨route, hroute⟩ := mem_preorder_iff.mp hu
    exact ⟨route, u, hroute, he⟩
  · intro h
    obtain ⟨route, u, hroute, he⟩ := h
    exact ⟨u, mem_preorder_iff.mpr ⟨route, hroute⟩, he⟩

theorem enumsOf_placed :
    EnumTable.enumsOf ((d.placed none).flatMap (·.2.ownFields)) = d.treeEnums := by
  unfold EnumTable.enumsOf treeEnums
  rw [d.flatMap_ownFields_placed, List.filterMap_flatMap]
  rfl

theorem clash_iff_enumsClash :
    EnumTable.Clash [] ((d.placed none).flatMap (·.2.ownFields)) ↔ d.EnumsClash := by
  rw [EnumTable.clash_nil_iff, enumsOf_placed]
  constructor
  · intro h
    obtain ⟨e, he, e', he', hne⟩ := h
    obtain ⟨route, u, hu, he⟩ := mem_treeEnums.mp he
    obtain ⟨route', u', hu', he'⟩ := mem_treeEnums.mp he'
    exact ⟨route, u, route', u', hu, hu', e, he, e', he', hne⟩
  · intro h
    obtain ⟨route, u, route', u', hu, hu', e, he, e', he', hne⟩ := h
    exact ⟨e, mem_treeEnums.mpr ⟨route, u, hu, he⟩, e', mem_treeEnums.mpr ⟨route', u', hu', he'⟩,
      hne⟩

/-- What clashes below a subclass clashes in the tree. -/
theorem EnumsClash.of_subclass {sub : Descriptor} {n : Nat} (hn : d.subclasses[n]? = some sub)
    (h : sub.EnumsClash) : d.EnumsClash := by
  obtain ⟨route, u, route', u', hu, hu', hne⟩ := h
  exact ⟨n :: route, u, n :: route', u', at?_cons_eq_some.mpr ⟨sub, hn, hu⟩,
    at?_cons_eq_some.mpr ⟨sub, hn, hu'⟩, hne⟩

theorem textDiscriminators_single {head : ClassHead} {fields : List ResolvedField} :
    (Descriptor.single head fields).TextDiscriminators := by
  intro route u hu hunion
  obtain ⟨above, hs⟩ := exists_site_of_at? hu
  obtain ⟨_, rfl⟩ := site_single hs
  cases hunion

theorem TextDiscriminators.of_subclasses (hd : ∃ field, d.discriminator = .str field)
    (h : ∀ sub ∈ d.subclasses, sub.TextDiscriminators) : d.TextDiscriminators := by
  intro route u hu hunion
  cases route with
  | nil =>
    cases hu
    exact hd
  | cons n route =>
    obtain ⟨sub, hsub, hu⟩ := at?_cons_eq_some.mp hu
    exact h sub (List.mem_of_getElem? hsub) route u hu hunion

theorem nodup_distinctEnums : (d.distinctEnums.map (·.name)).Nodup := nodup_firstByName

/-- Without a clash every enumeration of the tree is the one that is kept of its name. -/
theorem mem_distinctEnums (h : ¬ d.EnumsClash) (hu : d.at? route = some u) (he : e ∈ u.enums) :
    e ∈ d.distinctEnums := by
  have hname : e.name ∈ [] ++ firstByName id [] (d.treeEnums.map (·.name)) :=
    mem_firstByName_iff.mpr (List.mem_map_of_mem (mem_treeEnums.mpr ⟨route, u, hu, he⟩))
  rw [List.nil_append, ← map_firstByName] at hname
  obtain ⟨first, hfirst, heq⟩ := List.mem_map.mp hname
  obtain ⟨route', u', hu', he'⟩ := mem_treeEnums.mp (mem_of_mem_firstByName hfirst)
  by_cases hl : first.literals = e.literals
  · rwa [← EnumTable.eq_of_literals_eq heq hl]
  · exact absurd ⟨route', u', route, u, hu', hu, first, he', e, he, heq, hl⟩ h

end Descriptor

/-- **The table of a tree** holds the first enumeration of each name, or a clash is reported. -/
theorem EnumTable.addAll_placed (d : Descriptor) :
    (¬ d.EnumsClash ∧ ∃ table : EnumTable, table.classes = d.distinctEnums ∧
        addAll [] ((d.placed none).flatMap (·.2.ownFields)) = .ok table) ∨
      (d.EnumsClash ∧ ∃ field first second,
        addAll [] ((d.placed none).flatMap (·.2.ownFields)) =
          .error (.conflictingEnum field first second)) := by
  rw [← Descriptor.clash_iff_enumsClash]
  have h : Collects [] ((d.placed none).flatMap (·.2.ownFields)) (collect [] _) :=
    collects_collect keyed_nil
  unfold addAll
  generalize collect [] _ = result at h
  cases h with
  | all hnot =>
    refine Or.inl ⟨hnot, _, ?_, rfl⟩
    rw [Descriptor.enumsOf_placed, extend, List.nil_append, classes, List.map_map]
    exact List.map_id _
  | stops hsplit _ hconflict =>
    exact Or.inr ⟨⟨_, _, _, _, _, hsplit, hconflict⟩, _, _, _, rfl⟩

/-- Imports that are texts can be split. -/
theorem Target.splitQualifiers_cases (d : Descriptor) :
    (¬ d.TextImports ∧ ∃ m, splitQualifiers d.head.imports = .error m) ∨
      ∃ parts, splitQualifiers d.head.imports = .ok parts := by
  unfold splitQualifiers
  cases hsplit : traverse splitQualifier d.head.imports with
  | ok parts => exact Or.inr ⟨_, rfl⟩
  | error m =>
    refine Or.inl ⟨?_, m, rfl⟩
    intro htext
    obtain ⟨q, hq, herr⟩ := exists_item_of_traverse_error hsplit
    obtain ⟨text, rfl⟩ := htext q hq
    cases herr

/-! ## What a writer declares -/

section Writer

variable {F E : Type} {d : Descriptor} {made : Except Target.Fault F}
  {written : Except Target.Fault String} {text : F → String} {enums : F → List E}
  {enumOf : EnumClass → E}

/-- What is written of a tree, with the file that is made of it first. A clash of enumerations is
raised exactly if there is one; otherwise, with texts for imports, there is a file, and it declares
the first enumeration of each name. -/
structure DeclaresEnums (d : Descriptor) (made : Except Target.Fault F)
    (written : Except Target.Fault String) (text : F → String) (enums : F → List E)
    (enumOf : EnumClass → E) : Prop where
  raises_iff : (∃ field first second,
    written = .error (.schema (.conflictingEnum field first second))) ↔ d.EnumsClash
  declares : d.TextImports → ¬ d.EnumsClash → ∃ file, made = .ok file ∧
    written = .ok (text file) ∧ enums file = d.distinctEnums.map enumOf

/-- The outcomes of a writer that only a clash of enumerations and an import can stop. -/
theorem declaresEnums_of_cases (hwritten : written = made.map text)
    (hclash : d.EnumsClash → ∃ field first second,
      made = .error (.schema (.conflictingEnum field first second)))
    (hok : ¬ d.EnumsClash → (¬ d.TextImports ∧ ∃ m, made = .error (.misfit m)) ∨
      ∃ file, made = .ok file ∧ enums file = d.distinctEnums.map enumOf) :
    DeclaresEnums d made written text enums enumOf := by
  constructor
  · constructor
    · intro h
      obtain ⟨field, first, second, h⟩ := h
      rw [hwritten] at h
      by_contra hnot
      rcases hok hnot with ⟨_, m, hm⟩ | ⟨file, hfile, _⟩
      · rw [hm] at h
        cases h
      · rw [hfile] at h
        cases h
    · intro h
      obtain ⟨field, first, second, herr⟩ := hclash h
      refine ⟨field, first, second, ?_⟩
      rw [hwritten, herr]
      rfl
  · intro himports hnot
    rcases hok hnot with ⟨habsurd, _⟩ | ⟨file, hfile, henums⟩
    · exact absurd himports habsurd
    · refine ⟨file, hfile, ?_, henums⟩
      rw [hwritten, hfile]
      rfl

end Writer

/-! ## Kotlin -/

namespace KotlinFile

variable {settings : Settings} {indent : String} {d : Descriptor}

theorem declaresEnums (hindent : settings.indent = .ok indent) (d : Descriptor) :
    DeclaresEnums d (ofDescriptor settings d) (write settings d) (·.text indent) (·.enums)
      enumOf := by
  refine declaresEnums_of_cases (by rw [write, hindent]) ?_ ?_
  · intro h
    rcases EnumTable.addAll_placed d with ⟨hnot, _⟩ | ⟨_, field, first, second, herr⟩
    · exact absurd h hnot
    · refine ⟨field, first, second, ?_⟩
      simp only [ofDescriptor, herr]
  · intro hnot
    rcases EnumTable.addAll_placed d with ⟨_, table, hclasses, htable⟩ | ⟨hclash, _⟩
    · simp only [ofDescriptor, htable, importsOf]
      rcases Target.splitQualifiers_cases d with ⟨htext, m, hm⟩ | ⟨parts, hparts⟩
      · rw [hm]
        exact Or.inl ⟨htext, m, rfl⟩
      · rw [hparts]
        refine Or.inr ⟨_, rfl, ?_⟩
        rw [fileWith, hclasses]
    · exact absurd hclash hnot

end KotlinFile

/-! ## Python -/

namespace PythonModule

variable {settings : Settings} {indent : String} {d : Descriptor} {o : Options}
  {ps : List (Option Descriptor × Descriptor)} {table : EnumTable}

/-- Nothing but its enumerations can stop the writing of the class. -/
def Plain (above : Option Descriptor) (d : Descriptor) : Prop :=
  (∃ constants, constantsOf above d = .ok constants) ∧ checkTagName d = .ok ()

/-- Where only enumerations can stop the writing of classes, they alone decide. -/
theorem classesOf_of_plain (h : ∀ p ∈ ps, Plain p.1 p.2) :
    (∀ f, table.addAll (ps.flatMap (·.2.ownFields)) = .error f →
      classesOf o table ps = .error (.schema f)) ∧
    ∀ final, table.addAll (ps.flatMap (·.2.ownFields)) = .ok final →
      ∃ cs, classesOf o table ps = .ok (cs, final) := by
  induction ps generalizing table with
  | nil =>
    constructor
    · intro f hf
      cases hf
    · intro final hfinal
      cases hfinal
      exact ⟨[], rfl⟩
  | cons p rest ih =>
    obtain ⟨above, e⟩ := p
    obtain ⟨⟨⟨constants, hconstants⟩, hcheck⟩, hrest⟩ := List.forall_mem_cons.mp h
    rw [List.flatMap_cons, EnumTable.addAll_append, classesOf, classOf, hconstants]
    dsimp only at hcheck ⊢
    -- The table is handed from class to class, so the rest starts with what this class has left.
    cases hadd : table.addAll e.ownFields with
    | error f =>
      constructor
      · intro f' hf'
        cases hf'
        rfl
      · intro final hfinal
        cases hfinal
    | ok next =>
      obtain ⟨herror, hok⟩ := @ih next hrest
      dsimp only
      rw [hcheck]
      constructor
      · intro f hf
        rw [herror f hf]
      · intro final hfinal
        obtain ⟨cs, hcs⟩ := hok final hfinal
        rw [hcs]
        exact ⟨_, rfl⟩

/-- In a compiled tree with texts for discriminators only enumerations can stop the classes. -/
theorem plain_of_compile {k : Compiler} {s : Schema} {inherit : Bool} {i : s.Id}
    (h : k.compile s i inherit = .ok d) (hd : d.TextDiscriminators) :
    ∀ p ∈ d.placed none, Plain p.1 p.2 := by
  intro p hp
  obtain ⟨above, e⟩ := p
  obtain ⟨unions, hs, rfl⟩ := Descriptor.mem_placed_iff.mp hp
  -- The union above a leaf stands in the tree itself, so its discriminator is a text as well.
  have hname : ∀ {u above}, d.Site above u → u.isUnion = true →
      ∃ name, tagName u.discriminator = .ok name := by
    intro u above hu hunion
    obtain ⟨route, hroute⟩ := Descriptor.exists_route_of_site hu
    obtain ⟨field, hfield⟩ := hd route u hroute hunion
    exact ⟨_, by rw [hfield, tagName]⟩
  cases e with
  | union head discriminator common tags subclasses =>
    obtain ⟨name, hname⟩ := hname hs rfl
    have hcheck : tagName discriminator = .ok name := hname
    refine ⟨⟨_, rfl⟩, ?_⟩
    rw [checkTagName, hcheck]
    rfl
  | single head fields =>
    refine ⟨?_, rfl⟩
    cases hlast : unions.getLast? with
    | none => exact ⟨[], rfl⟩
    | some u =>
      obtain ⟨hsub, pre, hpre⟩ := hs.mem_subclasses_of_last hlast
      have hunion : u.isUnion = true := by
        cases u with
        | single => cases hsub
        | union => rfl
      obtain ⟨name, hname⟩ := hname hpre hunion
      obtain ⟨tag, htag⟩ :=
        Entries.exists_get?_of_mem (Compiler.name_mem_keys_of_site h hpre hsub rfl)
      have htag' : u.tags.get? head.name = some tag := htag
      show ∃ constants, constantsOf (some u) (.single head fields) = .ok constants
      rw [constantsOf, hname]
      dsimp only
      rw [htag']
      exact ⟨_, rfl⟩

theorem declaresEnums (hindent : settings.indent = .ok indent)
    (hplain : ∀ p ∈ d.placed none, Plain p.1 p.2) :
    DeclaresEnums d (ofDescriptor settings d) (write settings d) (·.text indent) (·.enums)
      enumOf := by
  refine declaresEnums_of_cases (by rw [write, hindent]) ?_ ?_
  · intro h
    rcases EnumTable.addAll_placed d with ⟨hnot, _⟩ | ⟨_, field, first, second, herr⟩
    · exact absurd h hnot
    · refine ⟨field, first, second, ?_⟩
      simp only [ofDescriptor, (classesOf_of_plain hplain).1 _ herr]
  · intro hnot
    rcases EnumTable.addAll_placed d with ⟨_, table, hclasses, htable⟩ | ⟨hclash, _⟩
    · obtain ⟨cs, hcs⟩ := (classesOf_of_plain (o := optionsOf settings) hplain).2 _ htable
      simp only [ofDescriptor, hcs, othersOf]
      rcases Target.splitQualifiers_cases d with ⟨htext, m, hm⟩ | ⟨parts, hparts⟩
      · rw [hm]
        exact Or.inl ⟨htext, m, rfl⟩
      · rw [hparts]
        refine Or.inr ⟨_, rfl, ?_⟩
        rw [moduleWith, hclasses]
    · exact absurd hclash hnot

end PythonModule

/-! ## Both backends -/

namespace Compiler

/-- **Each enumeration is declared once, or no file is written.** Whatever batches have filled a
table, its entries stand under their own names, a further batch raises exactly if it clashes, and
what it adds is put at the end. So for a compiled tree, with an indent that is a row of blanks, a
clash is raised exactly if two enumerations of the tree have one name and different literals, and
otherwise each enumeration that the type of a field refers to is declared, once for each name. The
Python writer needs texts for discriminators, both need them for imports. -/
theorem enums_declared :
    (∀ batches fs, (EnumTable.afterBatches batches).Keyed ∧
      (((EnumTable.afterBatches batches).collect fs).2.isSome = true ↔
        EnumTable.Clash (EnumTable.afterBatches batches) fs) ∧
      EnumTable.Collects (EnumTable.afterBatches batches) fs
        ((EnumTable.afterBatches batches).collect fs)) ∧
    ∀ (k : Compiler) (s : Schema) (inherit : Bool) (i : s.Id) (d : Descriptor),
      k.compile s i inherit = .ok d →
      ((d.distinctEnums.map (·.name)).Nodup ∧
        ∀ route u, d.at? route = some u → ∀ f ∈ u.ownFields, ∀ e, f.enum = some e →
          (f.type = e.name ∨ ∃ base, k.naming.parameterize base [e.name] = .ok f.type) ∧
          (¬ d.EnumsClash → e ∈ d.distinctEnums)) ∧
      ∀ settings indent, settings.indent = .ok indent →
        DeclaresEnums d (KotlinFile.ofDescriptor settings d) (KotlinFile.write settings d)
          (·.text indent) (·.enums) KotlinFile.enumOf ∧
        (d.TextDiscriminators →
          DeclaresEnums d (PythonModule.ofDescriptor settings d) (PythonModule.write settings d)
            (·.text indent) (·.enums) PythonModule.enumOf) := by
  constructor
  · intro batches fs
    have hkeyed := EnumTable.keyed_afterBatches batches
    have hcollects : EnumTable.Collects _ fs _ := EnumTable.collects_collect hkeyed
    exact ⟨hkeyed, hcollects.isSome_iff, hcollects⟩
  · intro k s inherit i d h
    refine ⟨⟨Descriptor.nodup_distinctEnums, ?_⟩, ?_⟩
    · -- A field that refers to an enumeration has its class in its type, in brackets or alone.
      intro route u hu f hf e he
      obtain ⟨above, hs⟩ := Descriptor.exists_site_of_at? hu
      obtain ⟨g, htyped⟩ := exists_typedAs_of_site h hs hf
      refine ⟨htyped.refers he, ?_⟩
      intro hnot
      exact Descriptor.mem_distinctEnums hnot hu (List.mem_filterMap.mpr ⟨f, hf, he⟩)
    · intro settings indent hindent
      refine ⟨KotlinFile.declaresEnums hindent d, ?_⟩
      intro htext
      exact PythonModule.declaresEnums hindent (PythonModule.plain_of_compile h htext)

end Compiler

/-! ## Transfers in two currencies -/

namespace Currencies

/-- A transfer of the given kind in the given currency. -/
def transfer (name kind currency : String) : Component String where
  name := name
  fields := [
    { name := "kind", type := { qualifier := .str "kotlin.String" }, literals := [kind] },
    { name := "currency", type := { qualifier := .str "kotlin.String" }, literals := [currency] }]
  distinct := by simp

def union (name : String) (field : Json) (mapping : Entries String) : Component String where
  name := name
  fields := []
  discriminator := some ⟨field, mapping⟩
  distinct := List.nodup_nil

/-- A note with a stamp, the type of which is a number. -/
def note : Component String where
  name := "Note"
  fields := [{ name := "stamp", type := { qualifier := .int 5 }, literals := ["OLD"] }]
  distinct := List.nodup_singleton _

/-- Payments are told apart by a number, their transfers by a text. -/
def catalog : Catalog := [
  ("Payment", union "Payment" (.int 5) [("TRANSFER", "Transfer")]),
  ("Transfer", union "Transfer" (.str "kind") [("WIRE", "Wire"), ("SWIFT", "Swift")]),
  ("Wire", transfer "Wire" "WIRE" "EUR"), ("Swift", transfer "Swift" "SWIFT" "USD"),
  ("Note", note)]

def schema : Schema := .tied catalog

def currencyField (currency : String) : ResolvedField :=
  { name := "currency", type := "Currency", enum := some ⟨"Currency", [currency]⟩ }

def transferClass (name currency : String) : Descriptor :=
  .single (.named name) [currencyField currency]

def transfersClass : Descriptor :=
  .union ⟨"Transfer", .str "", [.str "kotlin.String"]⟩ (.str "kind") []
    [("Wire", "WIRE"), ("Swift", "SWIFT")] [transferClass "Wire" "EUR", transferClass "Swift" "USD"]

def paymentClass : Descriptor :=
  .union ⟨"Payment", .str "", [.str "kotlin.String"]⟩ (.int 5) []
    [("Wire", "WIRE"), ("Swift", "SWIFT")] [transfersClass]

def noteClass : Descriptor :=
  .single ⟨"Note", .str "", [.int 5]⟩
    [{ name := "stamp", type := "Stamp", enum := some ⟨"Stamp", ["OLD"]⟩ }]

theorem compile_payment : ({} : Compiler).compile schema (0 : Fin 5) false = .ok paymentClass := rfl

theorem compile_transfers :
    ({} : Compiler).compile schema (1 : Fin 5) false = .ok transfersClass := rfl

theorem compile_note : ({} : Compiler).compile schema (4 : Fin 5) false = .ok noteClass := rfl

theorem transfers_clash : transfersClass.EnumsClash := by
  refine ⟨[0], transferClass "Wire" "EUR", [1], transferClass "Swift" "USD", rfl, rfl,
    ⟨"Currency", ["EUR"]⟩, ?_, ⟨"Currency", ["USD"]⟩, ?_, rfl, ?_⟩
  · decide
  · decide
  · decide

theorem payment_clash : paymentClass.EnumsClash := by
  have htransfers : paymentClass.subclasses[0]? = some transfersClass := rfl
  exact .of_subclass htransfers transfers_clash

theorem textDiscriminators_transfers : transfersClass.TextDiscriminators := by
  apply Descriptor.TextDiscriminators.of_subclasses ⟨"kind", rfl⟩
  intro sub hsub
  rcases List.mem_cons.mp hsub with rfl | hsub
  · exact Descriptor.textDiscriminators_single
  · rw [List.mem_singleton.mp hsub]
    exact Descriptor.textDiscriminators_single

theorem note_not_clash : ¬ noteClass.EnumsClash := by
  rcases EnumTable.addAll_placed noteClass with ⟨hnot, _⟩ | ⟨_, _, _, _, herr⟩
  · exact hnot
  · cases herr

/-- No file is written of the two currencies, in either language. -/
theorem transfers_refused :
    ({} : Compiler).compile schema (1 : Fin 5) false = .ok transfersClass ∧
    (∃ field first second, KotlinFile.write {} transfersClass =
      .error (.schema (.conflictingEnum field first second))) ∧
    ∃ field first second, PythonModule.write {} transfersClass =
      .error (.schema (.conflictingEnum field first second)) := by
  obtain ⟨_, hbackends⟩ := Compiler.enums_declared.2 _ _ _ _ _ compile_transfers
  obtain ⟨hkotlin, hpython⟩ := hbackends {} "    " rfl
  exact ⟨compile_transfers, hkotlin.raises_iff.mpr transfers_clash,
    (hpython textDiscriminators_transfers).raises_iff.mpr transfers_clash⟩

/-- **Other values stop the writers first**: a discriminator that is no text the Python writer, even
where enumerations clash; an import that is no text both, even where none do; and a number of blanks
that no row has both, though it is a whole number. -/
theorem not_all_enums_decide :
    (¬ ∀ (k : Compiler) (s : Schema) (inherit : Bool) (i : s.Id) (d : Descriptor)
      (settings : Settings) (n : Int), k.compile s i inherit = .ok d →
      settings.indentSize = .int n → d.EnumsClash → ∃ field first second,
        PythonModule.write settings d = .error (.schema (.conflictingEnum field first second))) ∧
    (¬ ∀ (k : Compiler) (s : Schema) (inherit : Bool) (i : s.Id) (d : Descriptor)
      (settings : Settings) (n : Int), k.compile s i inherit = .ok d →
      settings.indentSize = .int n → d.EnumsClash → ∃ field first second,
        KotlinFile.write settings d = .error (.schema (.conflictingEnum field first second))) ∧
    ¬ ∀ (k : Compiler) (s : Schema) (inherit : Bool) (i : s.Id) (d : Descriptor)
      (settings : Settings) (n : Int), k.compile s i inherit = .ok d →
      settings.indentSize = .int n → ¬ d.EnumsClash →
        ∃ text, KotlinFile.write settings d = .ok text := by
  refine ⟨?_, ?_, ?_⟩
  · intro hall
    obtain ⟨_, _, _, herr⟩ := hall {} schema false (0 : Fin 5) paymentClass {} 4 compile_payment rfl
      payment_clash
    have hmisfit : PythonModule.write {} paymentClass = .error (.misfit .cleaning) := rfl
    rw [hmisfit] at herr
    cases herr
  · intro hall
    let settings : Settings := { indentSize := .int (10 ^ 30) }
    obtain ⟨_, _, _, herr⟩ := hall {} schema false (1 : Fin 5) transfersClass settings (10 ^ 30)
      compile_transfers rfl transfers_clash
    have hmisfit : KotlinFile.write settings transfersClass =
        .error (.misfit (.row .noIndex)) := rfl
    rw [hmisfit] at herr
    cases herr
  · intro hall
    obtain ⟨text, hok⟩ := hall {} schema false (4 : Fin 5) noteClass {} 4 compile_note rfl
      note_not_clash
    have hmisfit : KotlinFile.write {} noteClass = .error (.misfit .search) := rfl
    rw [hmisfit] at hok
    cases hok

end Currencies
end ClassModel
