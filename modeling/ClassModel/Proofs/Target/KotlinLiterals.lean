import ClassModel.Proofs.Compile.Tagging
import ClassModel.Proofs.Target.ImportStatements
import ClassModel.Proofs.Text.Holds
import ClassModel.Proofs.Text.KotlinLiteral

/-!
# The literals of a Kotlin file

The annotations of a sealed class write texts between quotes: the field that tells the leaves apart
and, for each leaf, its literal. The texts stand there as they are. So a literal of an annotation
denotes its text exactly if nothing in the text is read as anything else (`annotations_denote_iff`):
a quote, a backslash, the end of a line, or a dollar sign before a name or a brace.

The lines are those of the root's annotations, and there are no others (`Polymorphism.Line`).
-/

set_option autoImplicit false

namespace ClassModel
namespace KotlinFile

open Text (Holds)

variable {k : Compiler} {s : Schema} {i : s.Id} {inherit : Bool} {settings : Settings}
  {d : Descriptor} {file : KotlinFile} {c : Declaration} {p : Polymorphism}
  {indent opening text x : String}

/-- The line that names the property, up to and with the opening quote. -/
def infoOpening : String :=
  "@JsonTypeInfo(use = JsonTypeInfo.Id.NAME, include = JsonTypeInfo.As.PROPERTY, " ++
    "property = \""

/-- The line for a subtype, up to and with the opening quote. -/
def subtypeOpening (indent name : String) : String :=
  indent ++ "JsonSubTypes.Type(value = " ++ name ++ "::class, name = \""

/-- `p.Line indent opening x`: a line of the annotations writes the text `x` in quotes, after
`opening`. -/
inductive Polymorphism.Line (indent : String) (p : Polymorphism) : String → String → Prop
  | property : Line indent p infoOpening p.property
  | subtype {name literal : String} : (name, literal) ∈ p.subtypes →
      Line indent p (subtypeOpening indent name) literal

/-- How a line of the annotations ends after the closing quote. -/
def LineEnd (tail : String) : Prop := tail = ")\n" ∨ tail = "),\n"

theorem quoted_append (before tail : String) :
    before ++ x ++ "\")" ++ tail = before ++ x ++ "\"" ++ (")" ++ tail) := by
  have hgroup : ∀ a b : String,
      before ++ x ++ (a ++ b) ++ tail = before ++ x ++ a ++ (b ++ tail) := by
    intro a b
    simp only [String.append_assoc]
  have hclose : "\")" = "\"" ++ ")" := rfl
  exact (congrArg (_ ++ · ++ tail) hclose).trans (hgroup _ _)

theorem subtypeText_append (name literal tail : String) :
    indent ++ subtypeText (name, literal) ++ tail =
      subtypeOpening indent name ++ literal ++ "\"" ++ (")" ++ tail) := by
  have hgroup : ∀ a b c : String, indent ++ (a ++ name ++ b ++ literal ++ c) ++ tail =
      indent ++ a ++ name ++ b ++ literal ++ c ++ tail := by
    intro a b c
    simp only [String.append_assoc]
  exact (hgroup _ _ _).trans (quoted_append _ tail)

/-- After a subtype stands a comma, or the bracket that closes the annotation, on the next line. -/
theorem subtypesText_eq (indent : String) (p : Polymorphism) : p.subtypesText indent =
    "@JsonSubTypes(\n" ++
      (",\n".intercalate (p.subtypes.map fun t => indent ++ subtypeText t) ++ "\n") ++ ")" := by
  have hgroup : ∀ a b c d : String, a ++ b ++ (c ++ d) = a ++ (b ++ c) ++ d := by
    intro a b c d
    simp only [String.append_assoc]
  have hclose : "\n)" = "\n" ++ ")" := rfl
  exact (congrArg (_ ++ ·) hclose).trans (hgroup _ _ _ _)

/-- Each line of the annotations stands in their text. -/
theorem holds_line (h : p.Line indent opening x) : ∃ tail, LineEnd tail ∧
    Holds (p.infoText ++ "\n" ++ p.subtypesText indent ++ "\n")
      (opening ++ x ++ "\"" ++ tail) := by
  cases h with
  | property =>
    have hline : p.infoText ++ "\n" = infoOpening ++ p.property ++ "\"" ++ ")\n" :=
      quoted_append infoOpening "\n"
    refine ⟨_, Or.inl rfl, ?_⟩
    rw [← hline]
    exact Text.holds_append_left (Text.holds_append_left (Text.holds_refl _))
  | @subtype name _ hmem =>
    have hpart := List.mem_map_of_mem (f := fun t => indent ++ subtypeText t) hmem
    have hheld : ∀ {line}, Holds (",\n".intercalate
        (p.subtypes.map fun t => indent ++ subtypeText t) ++ "\n") line →
        Holds (p.infoText ++ "\n" ++ p.subtypesText indent ++ "\n") line := by
      intro line hline
      rw [subtypesText_eq]
      apply Text.holds_append_left
      apply Text.holds_append_right
      apply Text.holds_append_left
      exact Text.holds_append_right hline
    rcases Text.holds_intercalate_append ",\n" "\n" hpart with hline | hline
    · rw [subtypeText_append] at hline
      exact ⟨_, Or.inr rfl, hheld hline⟩
    · rw [subtypeText_append] at hline
      exact ⟨_, Or.inl rfl, hheld hline⟩

theorem holds_annotation (hc : c ∈ file.classes) (hp : c.polymorphism? = some p) {line : String}
    (h : Holds (p.infoText ++ "\n" ++ p.subtypesText indent ++ "\n") line) :
    Holds (file.text indent) line := by
  have htext : Holds (c.text indent) line := by
    cases c with
    | sealedClass name parent polymorphism properties =>
      cases hp
      exact Text.holds_append_left (Text.holds_append_left (Text.holds_append_left
        (Text.holds_append_left h)))
    | dataClass name parent properties => cases hp
    | enumClass name entries => cases hp
  have hmem : c.text indent ∈ file.declarations.map (·.text indent) :=
    List.mem_map_of_mem (List.mem_append_left _ hc)
  rw [text_eq_opening]
  exact Text.holds_append_left (Text.holds_append_right (Text.holds_intercalate hmem htext))

/-- Only the root of a tree has annotations, and they say how its leaves are told apart. -/
theorem polymorphism_eq (hf : ofDescriptor settings d = .ok file) (hc : c ∈ file.classes)
    (hp : c.polymorphism? = some p) : d.isUnion = true ∧ p = polymorphismOf d := by
  obtain ⟨above, e, hs, rfl⟩ := (mem_classes_iff hf).mp hc
  obtain ⟨habove, hunion, hannotated⟩ :=
    polymorphism?_classOf.mp (Option.isSome_iff_exists.mpr ⟨p, hp⟩)
  cases hs with
  | root =>
    have hsome : (classOf settings none d).polymorphism? = some (polymorphismOf d) := by
      rw [classOf, classWith, if_pos hunion, Declaration.polymorphism?]
      simp [hannotated]
    rw [List.getLast?_nil, hsome] at hp
    exact ⟨hunion, (Option.some.inj hp).symm⟩
  | under _ _ => simp at habove

theorem discriminator_of_compile (h : k.compile s i inherit = .ok d) (hu : d.isUnion = true) :
    d.discriminator = (s.component i).tagField := by
  have hclass := Compiler.classOf_of_compile h
  rcases Compiler.compile_eq_ok_iff.mp h with ⟨_, _, _, hunion⟩ | ⟨hplain, _⟩
  · cases hunion
    rfl
  · rw [hclass.isUnion_eq, hplain] at hu
    cases hu

/-- The literal that a union has for a leaf is the leaf's literal at the last place of it. -/
theorem mem_tags_iff (hn : Function.Injective s.name) (h : k.compile s i inherit = .ok d)
    (hu : d.isUnion = true) (l : s.Id) {literal : String} : (s.name l, literal) ∈ d.tags ↔
      ∃ u, d.lastUnion (s.name l) = some u ∧ (s.component l).tag u.discriminator = .ok literal := by
  obtain ⟨hnodup, hrel⟩ := Compiler.tagsLast_of_site hn h (.root d) hu l
  rw [← Entries.get?_eq_some_iff hnodup]
  generalize d.tags.get? (s.name l) = tag at hrel
  generalize d.lastUnion (s.name l) = place at hrel
  cases hrel with
  | none => simp
  | @some t u ht =>
    have htag : (s.component l).tag u.discriminator = .ok t := ht
    simp [htag]

/-- **When the annotations of a Kotlin file denote what they write.** A file has annotations exactly
if its root is a union and the settings do not forbid it. They are those of the root: the text for
the property is the discriminator, and the texts for the subtypes are the literals of the leaves.
Each text has a line of the file. Between the quotes it denotes itself, and nothing else, exactly if
it has no backslash, no quote, no end of a line, and no dollar sign before a name or a brace. -/
theorem annotations_denote_iff (h : k.compile s i inherit = .ok d)
    (hw : write settings d = .ok text) :
    ∃ indent file, settings.indent = .ok indent ∧ ofDescriptor settings d = .ok file ∧
      text = file.text indent ∧
      ((∃ c ∈ file.classes, c.polymorphism?.isSome = true) ↔
        (s.component i).isUnion = true ∧ isAnnotated settings = true) ∧
      ∀ c ∈ file.classes, ∀ p, c.polymorphism? = some p →
        p.property = (s.component i).tagField.display ∧
        (Function.Injective s.name → ∀ l literal, (s.name l, literal) ∈ p.subtypes ↔
          ∃ u, d.lastUnion (s.name l) = some u ∧
            (s.component l).tag u.discriminator = .ok literal) ∧
        ∀ opening x, p.Line indent opening x → ∃ tail, LineEnd tail ∧
          Holds text (opening ++ x ++ "\"" ++ tail) ∧
          ∀ letter rest, KotlinLiteral.Denotes letter
              (x.toList ++ '"' :: (tail.toList ++ rest)) x.toList (tail.toList ++ rest) ↔
            KotlinLiteral.Verbatim letter x.toList := by
  obtain ⟨indent, file, hindent, hf, rfl⟩ := write_eq_ok_iff.mp hw
  have hunion := (Compiler.classOf_of_compile h).isUnion_eq
  refine ⟨indent, file, hindent, hf, rfl, ?_, ?_⟩
  · rw [annotated_iff_of_ofDescriptor hf, hunion]
  · intro c hc p hp
    obtain ⟨hu, rfl⟩ := polymorphism_eq hf hc hp
    refine ⟨congrArg Json.display (discriminator_of_compile h hu),
      fun hn l _ => mem_tags_iff hn h hu l, ?_⟩
    intro opening x hline
    obtain ⟨tail, hend, hheld⟩ := holds_line hline
    refine ⟨tail, hend, holds_annotation hc hp hheld, ?_⟩
    intro letter rest
    have htick : KotlinLiteral.tickFollows (tail.toList ++ rest) = false := by
      rcases hend with rfl | rfl <;> rfl
    exact KotlinLiteral.denotes_iff htick x.toList

end KotlinFile

/-! ## Tenders told apart by a field with a dollar sign -/

namespace Tenders

/-- A tender is told apart by the field `$type`. Cash is in dollars. -/
def document : Json := .obj [("components", .obj [
  ("Tender", .obj [("discriminator", .obj [
    ("field", .str "$type"), ("mapping", .obj [("US$", .str "Cash")])])]),
  ("Cash", .obj [("fields", .obj [("$type", .obj [
    ("qualifier", .str "kotlin.String"), ("enum", .arr [.str "US$"]),
    ("required", .bool true)])])])])]

def catalog : Catalog := [
  ("Tender", {
    name := "Tender"
    fields := []
    discriminator := some ⟨.str "$type", [("US$", "Cash")]⟩
    distinct := List.nodup_nil }),
  ("Cash", {
    name := "Cash"
    fields := [{ name := "$type", type := { qualifier := .str "kotlin.String" },
                 literals := ["US$"], required := true }]
    distinct := List.nodup_singleton _ })]

def schema : Schema := .tied catalog

def tenderClass : Descriptor :=
  .union ⟨"Tender", .str "", [.str "kotlin.String"]⟩ (.str "$type") [] [("Cash", "US$")]
    [.single ⟨"Cash", .str "", [.str "kotlin.String"]⟩ []]

theorem load_document : Document.load document = .ok catalog := rfl

theorem ofCatalog_catalog : Schema.ofCatalog catalog = .ok schema := rfl

theorem compile_tender : ({} : Compiler).compile schema (0 : Fin 2) true = .ok tenderClass := rfl

theorem exists_text : ∃ text, KotlinFile.write {} tenderClass = .ok text := ⟨_, rfl⟩

theorem name_injective : Function.Injective schema.name := by
  decide

end Tenders

namespace KotlinFile

open Tenders KotlinLiteral
open Text (Holds)

/-- Cash is written as it is and denoted: the dollar sign is the last character. -/
theorem cash_denoted : ∃ (text opening tail : String),
    write {} tenderClass = .ok text ∧ Holds text (opening ++ "US$" ++ "\"" ++ tail) ∧
      ∀ letter rest, Denotes letter ("US$".toList ++ '"' :: (tail.toList ++ rest)) "US$".toList
        (tail.toList ++ rest) := by
  obtain ⟨text, hw⟩ := exists_text
  obtain ⟨indent, file, _, _, _, hannotated, hlines⟩ := annotations_denote_iff compile_tender hw
  obtain ⟨c, hc, hset⟩ := hannotated.mpr ⟨rfl, rfl⟩
  obtain ⟨p, hp⟩ := Option.isSome_iff_exists.mp hset
  obtain ⟨_, htags, hlines⟩ := hlines c hc p hp
  have hcash : ("Cash", "US$") ∈ p.subtypes :=
    (htags name_injective (1 : Fin 2) "US$").mpr ⟨tenderClass, rfl, rfl⟩
  obtain ⟨tail, _, hheld, hdenotes⟩ := hlines _ _ (.subtype hcash)
  refine ⟨text, _, tail, hw, hheld, ?_⟩
  intro letter rest
  have hverbatim : Verbatim letter ['U', 'S', '$'] := by
    simp [verbatim_cons_iff, verbatim_nil, opensTemplate]
  exact (hdenotes letter rest).mpr hverbatim

/-- **An annotation need not denote its text**: the dollar sign of the property begins a
template. -/
theorem not_all_annotations_denote :
    ¬ ∀ (document : Json) (catalog : Catalog) (s : Schema) (i : s.Id) (k : Compiler)
      (inherit : Bool) (d : Descriptor) (settings : Settings) (file : KotlinFile)
      (c : Declaration) (p : Polymorphism) (indent opening x tail : String)
      (letter : Char → Bool) (rest : List Char),
      Document.load document = .ok catalog → Schema.ofCatalog catalog = .ok s →
      k.compile s i inherit = .ok d → ofDescriptor settings d = .ok file →
      c ∈ file.classes → c.polymorphism? = some p → p.Line indent opening x → LineEnd tail →
      Denotes letter (x.toList ++ '"' :: (tail.toList ++ rest)) x.toList (tail.toList ++ rest) := by
  intro hall
  obtain ⟨text, hw⟩ := exists_text
  obtain ⟨indent, file, _, hf, _⟩ := write_eq_ok_iff.mp hw
  obtain ⟨c, hc, hset⟩ := (annotated_iff_of_ofDescriptor hf).mpr ⟨rfl, rfl⟩
  obtain ⟨p, hp⟩ := Option.isSome_iff_exists.mp hset
  obtain ⟨_, rfl⟩ := polymorphism_eq hf hc hp
  have hdenotes := hall document catalog schema (0 : Fin 2) {} true tenderClass {} file c _ indent
    _ "$type" ")\n" (fun _ => false) [] load_document ofCatalog_catalog compile_tender hf hc hp
    .property (Or.inl rfl)
  have hverbatim := (denotes_iff rfl _).mp hdenotes
  exact absurd (hverbatim.dollars [] "type".toList rfl) (by decide)

end KotlinFile
end ClassModel
