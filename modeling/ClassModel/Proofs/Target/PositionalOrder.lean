import ClassModel.Proofs.Target.Blocks

/-!
# Positional arguments of the dataclasses

Unless all arguments are given by name, a dataclass that takes one without a default after one that
has a default is refused when it is defined. Its arguments are those of the classes that it is
derived from, the root's first, and then its own. The writer sorts the attributes of each class by
itself, which settles the order within a class and says nothing about two classes.

So the order is right exactly where no class above declares an optional attribute while a class
further down declares a required one (`defaults_last_iff`). Without inheritance the unions declare
no attributes at all, and it always is; with it a single union is enough to go wrong
(`not_all_defaults_last`).
-/

set_option autoImplicit false

namespace ClassModel

namespace Descriptor

/-- The classes from the root of a tree down to one of them, each with the union right above it.
`top` is the union above the root. -/
def line (top : Option Descriptor) :
    List Descriptor → Descriptor → List (Option Descriptor × Descriptor)
  | [], e => [(top, e)]
  | u :: above, e => (top, u) :: line (some u) above e

variable {d e : Descriptor} {above : List Descriptor} {top : Option Descriptor}

theorem line_subset_placed (hs : d.Site above e) : line top above e ⊆ d.placed top := by
  induction hs generalizing top with
  | root d =>
    intro p hp
    rw [line, List.mem_singleton] at hp
    subst hp
    exact mem_placed_iff.mpr ⟨[], .root d, rfl⟩
  | @under d sub e above hsub hs ih =>
    intro p hp
    rcases List.mem_cons.mp hp with rfl | hp
    · exact mem_placed_iff.mpr ⟨[], .root d, rfl⟩
    · obtain ⟨pre, hpre, hlast⟩ := mem_placed_iff.mp (ih hp)
      refine mem_placed_iff.mpr ⟨d :: pre, .under hsub hpre, ?_⟩
      rw [hlast]
      cases pre <;> simp [List.getLast?_cons]

theorem getLast?_line : (line top above e).getLast? = some (above.getLast?.or top, e) := by
  induction above generalizing top with
  | nil => rfl
  | cons u above ih =>
    rw [line, List.getLast?_cons, ih]
    cases above <;> simp [List.getLast?_cons]

end Descriptor

namespace PythonModule

variable {o : Options} {d e : Descriptor} {above : List Descriptor} {fs gs : List ResolvedField}
  {settings : Settings} {text : String} {chain : List Class} {c : Class} {m : PythonModule}
  {top : Option Descriptor}

/-- No attribute without a default stands after one that has a default. -/
def DefaultsLast (as : List Attribute) : Prop :=
  as.Pairwise fun a b => a.required = false → b.required = false

/-- `chain` are the dataclasses from the root of a tree down to its class `e` below the unions
`above`. -/
def Chain (o : Options) (above : List Descriptor) (e : Descriptor) (chain : List Class) : Prop :=
  List.Forall₂ (fun p c => classOf o p.1 p.2 = .ok c) (Descriptor.line none above e) chain

/-- What the last class of a chain takes: what the first one declares, then the second, and so
on. -/
def arguments (chain : List Class) : List Attribute := chain.flatMap (·.attributes)

/-- One optional field among `fs` makes all of `gs` optional. -/
def Defers (fs gs : List ResolvedField) : Prop :=
  ∀ f ∈ fs, f.required = false → ∀ g ∈ gs, g.required = false

/-- What the classes of a chain declare: the unions all of their fields, the last class its own. -/
def declaredAlong (above : List Descriptor) (e : Descriptor) : List (List ResolvedField) :=
  above.map (·.ownFields) ++ [declaredFields above.getLast? e]

/-! ## One class -/

@[simp] theorem required_attributeOf (f : ResolvedField) :
    (attributeOf f).required = f.required := rfl

theorem mem_ordered {f : ResolvedField} : f ∈ ordered o fs ↔ f ∈ fs := (perm_ordered o fs).mem_iff

/-- The attributes of one class are in order. -/
theorem defaultsLast_ordered (ho : o.keywordsOnly = false) (fs : List ResolvedField) :
    DefaultsLast ((ordered o fs).map attributeOf) := by
  refine List.pairwise_map.mpr ?_
  simp only [ordered, ho, Bool.false_eq_true, if_false, required_attributeOf]
  refine List.pairwise_append.mpr ⟨?_, ?_, ?_⟩
  · apply List.pairwise_of_forall_mem_list
    intro f hf _ _ hoptional
    have hrequired : f.required = true := (List.mem_filter.mp hf).2
    rw [hrequired] at hoptional
    cases hoptional
  · apply List.pairwise_of_forall_mem_list
    intro _ _ g hg _
    simpa using (List.mem_filter.mp hg).2
  · intro _ _ g hg _
    simpa using (List.mem_filter.mp hg).2

theorem attributes_classOf (h : classOf o top e = .ok c) :
    c.attributes = (ordered o (declaredFields top e)).map attributeOf := by
  obtain ⟨_, _, rfl⟩ := classOf_eq_ok_iff.mp h
  rfl

/-- Between the attributes of two classes the order within each does not matter. -/
theorem defers_iff : Defers fs gs ↔
    ∀ a ∈ (ordered o fs).map attributeOf, ∀ b ∈ (ordered o gs).map attributeOf,
      a.required = false → b.required = false := by
  simp only [List.forall_mem_map, mem_ordered, required_attributeOf]
  constructor
  · intro h f hf g hg hoptional
    exact h f hf hoptional g hg
  · intro h f hf hoptional g hg
    exact h f hf g hg hoptional

/-! ## A chain of classes -/

theorem declaredFields_of_isUnion (h : e.isUnion = true) :
    declaredFields top e = e.ownFields := by
  simp [declaredFields, h]

theorem map_declaredFields_line (hu : ∀ u ∈ above, u.isUnion = true) :
    (Descriptor.line top above e).map (fun p => declaredFields p.1 p.2) =
      above.map (·.ownFields) ++ [declaredFields (above.getLast?.or top) e] := by
  induction above generalizing top with
  | nil => rfl
  | cons u above ih =>
    obtain ⟨hhead, hrest⟩ := List.forall_mem_cons.mp hu
    rw [Descriptor.line, List.map_cons, ih hrest, declaredFields_of_isUnion hhead]
    cases above <;> simp [List.getLast?_cons]

theorem map_attributes_chain (hs : d.Site above e) (hc : Chain o above e chain) :
    chain.map (·.attributes) =
      (declaredAlong above e).map fun fs => (ordered o fs).map attributeOf := by
  have hu : ∀ u ∈ above, u.isUnion = true := fun u hu => (hs.of_mem_above hu).1
  have hdeclared : declaredAlong above e =
      (Descriptor.line none above e).map fun p => declaredFields p.1 p.2 := by
    rw [map_declaredFields_line hu, Option.or_none]
    rfl
  rw [hdeclared, List.map_map]
  symm
  rw [← List.forall₂_eq_eq_eq, List.forall₂_map_left_iff, List.forall₂_map_right_iff]
  refine hc.imp ?_
  intro p c hclass
  exact (attributes_classOf hclass).symm

/-- **What a dataclass takes is in order exactly if no class of its chain declares an optional
field while one further down declares a required one.** -/
theorem defaultsLast_arguments_iff (ho : o.keywordsOnly = false) (hs : d.Site above e)
    (hc : Chain o above e chain) :
    DefaultsLast (arguments chain) ↔ (declaredAlong above e).Pairwise Defers := by
  unfold DefaultsLast arguments
  rw [List.flatMap_def, map_attributes_chain hs hc, List.pairwise_flatten, List.pairwise_map]
  simp only [← defers_iff]
  constructor
  · intro h
    exact h.2
  · intro h
    refine ⟨?_, h⟩
    intro l hl
    obtain ⟨fs, _, rfl⟩ := List.mem_map.mp hl
    exact defaultsLast_ordered ho fs

theorem getLast?_chain (hc : Chain o above e chain) :
    ∃ c, chain.getLast? = some c ∧ classOf o above.getLast? e = .ok c := by
  have hline : (Descriptor.line none above e).getLast? = some (above.getLast?, e) := by
    rw [Descriptor.getLast?_line, Option.or_none]
  rw [List.getLast?_eq_getElem?, hc.length_eq] at hline
  obtain ⟨c, hlast, hclass⟩ := exists_right_of_getElem? hc hline
  exact ⟨c, by rw [List.getLast?_eq_getElem?, hlast], hclass⟩

/-- Every class of a chain is written. -/
theorem chain_subset (hm : ofDescriptor settings d = .ok m) (hs : d.Site above e)
    (hc : Chain (optionsOf settings) above e chain) : chain ⊆ m.classes := by
  obtain ⟨hclasses, _⟩ := parts_of_ofDescriptor hm
  intro c hmem
  obtain ⟨p, hp, hclass⟩ := exists_left_of_forall₂ hc hmem
  obtain ⟨c', hc', hclass'⟩ :=
    exists_right_of_forall₂ hclasses (Descriptor.line_subset_placed hs hp)
  rw [hclass] at hclass'
  cases hclass'
  exact hc'

/-- Every class that is written is the last of a chain. -/
theorem exists_chain (hm : ofDescriptor settings d = .ok m) (hc : c ∈ m.classes) :
    ∃ above e chain, d.Site above e ∧ Chain (optionsOf settings) above e chain ∧
      chain.getLast? = some c := by
  obtain ⟨above, e, hs, hclass⟩ := (mem_classes_iff hm).mp hc
  obtain ⟨hclasses, _⟩ := parts_of_ofDescriptor hm
  have hline : ∀ p ∈ Descriptor.line none above e,
      ∃ b, classOf (optionsOf settings) p.1 p.2 = .ok b := by
    intro p hp
    obtain ⟨b, _, hb⟩ := exists_right_of_forall₂ hclasses (Descriptor.line_subset_placed hs hp)
    exact ⟨b, hb⟩
  obtain ⟨chain, hchain⟩ := exists_forall₂ hline
  obtain ⟨c', hlast, hclass'⟩ := getLast?_chain hchain
  rw [hclass] at hclass'
  cases hclass'
  exact ⟨above, e, chain, hs, hchain, hlast⟩

/-- Where the unions declare nothing, one class alone is in order. -/
theorem defers_of_unions_empty (h : ∀ u ∈ above, u.ownFields = []) :
    (declaredAlong above e).Pairwise Defers := by
  have hempty : ∀ fs ∈ above.map (·.ownFields), fs = [] := by
    intro fs hfs
    obtain ⟨u, hu, rfl⟩ := List.mem_map.mp hfs
    exact h u hu
  refine List.pairwise_append.mpr ⟨?_, List.pairwise_singleton _ _, ?_⟩
  · apply List.pairwise_of_forall_mem_list
    intro fs hfs gs _
    rw [hempty fs hfs]
    simp [Defers]
  · intro fs hfs gs _
    rw [hempty fs hfs]
    simp [Defers]

end PythonModule

/-! ## Compiled trees -/

namespace Compiler

variable {k : Compiler} {s : Schema} {inherit : Bool} {i : s.Id} {d u : Descriptor}
  {above : List Descriptor}

theorem ownFields_of_compile_plain (h : k.compile s i false = .ok d) (hs : d.Site above u)
    (hu : u.isUnion = true) : u.ownFields = [] := by
  obtain ⟨_, _, _, hunion⟩ := unionClass_of_site h hs hu
  obtain ⟨lifted, hl, hown, _⟩ := hunion.subclass_cases
  rw [liftedFields_false] at hl
  cases hl
  rw [hown, List.filter_nil]

end Compiler

/-! ## Payments with notes -/

namespace Receipts

def fieldJson (name : String) (required : Bool) : String × Json :=
  (name, .obj [("qualifier", .str "kotlin.String"), ("required", .bool required)])

def typeJson (literal : String) : String × Json :=
  ("type", .obj [("qualifier", .str "kotlin.String"), ("enum", .arr [.str literal]),
    ("required", .bool true)])

/-- A payment may have a note, and a card must have a number. -/
def document : Json := .obj [("components", .obj [
  ("Payment", Sharing.unionJson [("CARD", .str "Card"), ("CASH", .str "Cash")]),
  ("Card", .obj [("fields", .obj [typeJson "CARD", fieldJson "note" false,
    fieldJson "number" true])]),
  ("Cash", .obj [("fields", .obj [typeJson "CASH", fieldJson "note" false])])])]

def plainField (name : String) (required : Bool) : Field :=
  { name := name, type := { qualifier := .str "kotlin.String" }, required := required }

def typeField (literal : String) : Field :=
  { name := "type", type := { qualifier := .str "kotlin.String" }, literals := [literal],
    required := true }

def catalog : Catalog := [
  ("Payment", Sharing.union "Payment" [("CARD", "Card"), ("CASH", "Cash")]),
  ("Card", { name := "Card",
             fields := [typeField "CARD", plainField "note" false, plainField "number" true],
             distinct := by decide }),
  ("Cash", { name := "Cash", fields := [typeField "CASH", plainField "note" false],
             distinct := by decide })]

def schema : Schema := .tied catalog

def note : ResolvedField := { name := "note", type := "String" }

def number : ResolvedField := { name := "number", type := "String", required := true }

def cardClass : Descriptor :=
  .single (.named "Card") [{ note with isOverride := true }, number]

def cashClass : Descriptor := .single (.named "Cash") [{ note with isOverride := true }]

/-- The class of the payments, which lists the note. -/
def paymentClass : Descriptor :=
  .union (.named "Payment") (.str "type") [{ note with isAbstract := true }]
    [("Card", "CARD"), ("Cash", "CASH")] [cardClass, cashClass]

/-- Arguments may be given by position. -/
def positional : Settings := { custom := [("kw_only", .bool false)] }

theorem load_document : Document.load document = .ok catalog := rfl

theorem ofCatalog_catalog : Schema.ofCatalog catalog = .ok schema := rfl

theorem compile_payment : ({} : Compiler).compile schema (0 : Fin 3) true = .ok paymentClass := rfl

theorem site_card : paymentClass.Site [paymentClass] cardClass :=
  .under List.mem_cons_self (.root _)

/-- The card where unions list nothing: the note is its own. -/
def plainCardClass : Descriptor := .single (.named "Card") [note, number]

/-- The payments without inheritance. -/
def plainPaymentClass : Descriptor :=
  .union (.named "Payment") (.str "type") [] [("Card", "CARD"), ("Cash", "CASH")]
    [plainCardClass, .single (.named "Cash") [note]]

theorem compile_plainPayment :
    ({} : Compiler).compile schema (0 : Fin 3) false = .ok plainPaymentClass := rfl

theorem site_plainCard : plainPaymentClass.Site [plainPaymentClass] plainCardClass :=
  .under List.mem_cons_self (.root _)

end Receipts

namespace PythonModule

variable {k : Compiler} {s : Schema} {inherit : Bool} {i : s.Id} {d : Descriptor}
  {settings : Settings} {text : String}

/-- **When positional arguments are in order.** Each dataclass of a module that is written is the
last of a chain of its dataclasses. What it takes has its defaults last exactly if no class of the
chain declares an optional field while one further down declares a required one. Without
inheritance that is never so. -/
theorem defaults_last_iff (h : k.compile s i inherit = .ok d)
    (ho : (optionsOf settings).keywordsOnly = false) (hw : write settings d = .ok text) :
    ∃ indent m, ofDescriptor settings d = .ok m ∧ text = m.text indent ∧
      (∀ c ∈ m.classes, ∃ above e chain, d.Site above e ∧
        Chain (optionsOf settings) above e chain ∧ chain.getLast? = some c) ∧
      ∀ above e chain, d.Site above e → Chain (optionsOf settings) above e chain →
        chain ⊆ m.classes ∧
        (DefaultsLast (arguments chain) ↔ (declaredAlong above e).Pairwise Defers) ∧
        (inherit = false → DefaultsLast (arguments chain)) := by
  obtain ⟨indent, m, _, hm, htext⟩ := write_eq_ok_iff.mp hw
  refine ⟨indent, m, hm, htext, ?_, ?_⟩
  · intro c hc
    exact exists_chain hm hc
  · intro above e chain hs hc
    have hiff := defaultsLast_arguments_iff ho hs hc
    refine ⟨chain_subset hm hs hc, hiff, ?_⟩
    intro hplain
    subst hplain
    apply hiff.mpr
    apply defers_of_unions_empty
    intro u hu
    obtain ⟨hunion, _, _, _, hsite⟩ := hs.of_mem_above hu
    exact Compiler.ownFields_of_compile_plain h hsite hunion

open Receipts

/-- A card that has its note to itself takes it last, though the note is declared first. -/
theorem plain_card_defaults_last : ∃ (indent : String) (m : PythonModule) (chain : List Class),
    write positional plainPaymentClass = .ok (m.text indent) ∧
    Chain (optionsOf positional) [plainPaymentClass] plainCardClass chain ∧ chain ⊆ m.classes ∧
    arguments chain = [⟨"number", "String", true⟩, ⟨"note", "String", false⟩] ∧
    DefaultsLast (arguments chain) := by
  have hwritten : ∃ text, write positional plainPaymentClass = .ok text := ⟨_, rfl⟩
  obtain ⟨text, hw⟩ := hwritten
  obtain ⟨indent, m, _, rfl, _, hall⟩ := defaults_last_iff compile_plainPayment rfl hw
  have hchain : ∃ chain,
      Chain (optionsOf positional) [plainPaymentClass] plainCardClass chain ∧
        arguments chain = [⟨"number", "String", true⟩, ⟨"note", "String", false⟩] :=
    ⟨_, .cons rfl (.cons rfl .nil), by decide⟩
  obtain ⟨chain, hc, harguments⟩ := hchain
  obtain ⟨hsub, hiff, _⟩ := hall _ plainCardClass chain site_plainCard hc
  refine ⟨indent, m, chain, hw, hc, hsub, harguments, hiff.mpr ?_⟩
  refine List.pairwise_pair.mpr ?_
  intro _ hunion
  cases hunion

/-- **A required argument can come after an optional one**: the note of a payment has a default,
and the number of a card, which comes after it, has none. -/
theorem not_all_defaults_last :
    ¬ ∀ (document : Json) (catalog : Catalog) (s : Schema) (i : s.Id) (k : Compiler)
      (inherit : Bool) (d : Descriptor) (settings : Settings) (text : String),
      Document.load document = .ok catalog → Schema.ofCatalog catalog = .ok s →
      k.compile s i inherit = .ok d → (optionsOf settings).keywordsOnly = false →
      write settings d = .ok text →
      ∀ above e chain, d.Site above e → Chain (optionsOf settings) above e chain →
        DefaultsLast (arguments chain) := by
  intro hall
  have hwritten : ∃ text, write positional paymentClass = .ok text := ⟨_, rfl⟩
  obtain ⟨text, hw⟩ := hwritten
  have hchain : ∃ chain, Chain (optionsOf positional) [paymentClass] cardClass chain ∧
      arguments chain = [⟨"note", "String", false⟩, ⟨"number", "String", true⟩] :=
    ⟨_, .cons rfl (.cons rfl .nil), by decide⟩
  obtain ⟨chain, hc, harguments⟩ := hchain
  have horder := hall document catalog schema (0 : Fin 3) {} true paymentClass positional text
    load_document ofCatalog_catalog compile_payment rfl hw _ cardClass chain site_card hc
  rw [harguments] at horder
  exact absurd (List.pairwise_pair.mp horder rfl) (by decide)

end PythonModule
end ClassModel
