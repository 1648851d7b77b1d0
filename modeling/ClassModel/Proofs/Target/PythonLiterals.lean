import ClassModel.Proofs.Target.Blocks
import ClassModel.Proofs.Text.Holds
import ClassModel.Proofs.Text.PythonLiteral

/-!
# The literals of a Python module

A module writes three kinds of texts as literals: the discriminator of each union, the tag of each
leaf below one, and the literals of each enumeration (`Spells`). Each has a line of the module, and
there are no others. Read as Python reads it, the literal on the line denotes the text exactly if
no character of it lies beyond U+FFFF (`literals_denote_iff`).
-/

set_option autoImplicit false

namespace ClassModel

theorem Text.holds_indentedLines {indent line : String} {parts : List String} (h : line ∈ parts) :
    Holds (Target.indentedLines indent parts) (indent ++ line ++ "\n") :=
  holds_join (List.mem_map_of_mem h) (holds_refl _)

namespace PythonModule

open Text (Holds)

/-- The texts that the module of a tree writes as literals. -/
inductive Spells (d : Descriptor) : String → Prop
  | discriminator {above : List Descriptor} {u : Descriptor} {w : String} :
      d.Site above u → u.isUnion = true → u.discriminator = .str w → Spells d w
  | tag {above : List Descriptor} {u leaf : Descriptor} {t : String} :
      d.Site above leaf → leaf.isUnion = false → above.getLast? = some u →
        u.tags.get? leaf.name = some t → Spells d t
  | literal {e : EnumClass} {l : String} : e ∈ d.distinctEnums → l ∈ e.literals → Spells d l

/-- The lines that write the text `s` as a literal: a constant of a class or a member of an
enumeration. -/
inductive Line (m : PythonModule) (s : String) : String → Prop
  | constant {c : Class} {k : Constant} : c ∈ m.classes → k ∈ c.constants → k.value = .str s →
      Line m s (k.name ++ ": ClassVar[str] = " ++ Text.asciiLiteral s)
  | member {e : Enumeration} {name : String} : e ∈ m.enums → (name, s) ∈ e.members →
      Line m s (name ++ " = " ++ Text.asciiLiteral s)

variable {settings : Settings} {d : Descriptor} {m : PythonModule} {s line text indent : String}
  {c : Class} {k : Constant}

theorem text_constant (h : k.value = .str s) :
    k.text = k.name ++ ": ClassVar[str] = " ++ Text.asciiLiteral s := by
  rw [Constant.text, h, Json.literal_str]
  rfl

/-- Each line stands in the text of the module. -/
theorem holds_line (h : Line m s line) : Holds (m.text indent) (indent ++ line ++ "\n") := by
  rw [text_eq_opening]
  apply Text.holds_append_left
  apply Text.holds_append_right
  cases h with
  | @constant c k hc hk hvalue =>
    apply Text.holds_intercalate (List.mem_append_right _ (List.mem_map_of_mem hc))
    rw [Class.text]
    apply Text.holds_append_right
    rw [← text_constant hvalue]
    have hline : k.text ∈ c.constants.map (·.text) ++ c.attributes.map (·.text) :=
      List.mem_append_left _ (List.mem_map_of_mem hk)
    rw [if_neg (by simpa using List.ne_nil_of_mem hline)]
    exact Text.holds_indentedLines hline
  | @member e name he hmember =>
    apply Text.holds_intercalate (List.mem_append_left _ (List.mem_map_of_mem he))
    rw [Enumeration.text]
    apply Text.holds_append_right
    exact Text.holds_indentedLines (List.mem_map_of_mem hmember)

/-- **What a module writes as literals** are the discriminators, the tags and the literals of its
tree. -/
theorem spells_iff (hm : ofDescriptor settings d = .ok m) :
    Spells d s ↔ ∃ line, Line m s line := by
  obtain ⟨_, _, henums, _⟩ := parts_of_ofDescriptor hm
  constructor
  · intro h
    cases h with
    | @discriminator above u _ hs hu hw =>
      obtain ⟨c, hc, hclass⟩ := exists_class_of_site hm hs
      obtain ⟨ks, hks, rfl⟩ := classOf_eq_ok_iff.mp hclass
      -- Only a union has its discriminator as a constant, so the other two shapes are excluded.
      rcases constantsOf_cases hks with ⟨_, rfl⟩ | ⟨hleaf, _⟩ | ⟨_, _, _, hleaf, _⟩
      · exact ⟨_, .constant hc (List.mem_singleton_self _) hw⟩
      · rw [hu] at hleaf
        cases hleaf
      · rw [hu] at hleaf
        cases hleaf
    | @tag above u leaf t hs hl hu ht =>
      obtain ⟨c, hc, hclass⟩ := exists_class_of_site hm hs
      obtain ⟨ks, hks, rfl⟩ := classOf_eq_ok_iff.mp hclass
      rcases constantsOf_cases hks with
        ⟨hunion, _⟩ | ⟨_, hnone, _⟩ | ⟨u', _, t', _, hu', _, ht', rfl⟩
      · rw [hl] at hunion
        cases hunion
      · rw [hu] at hnone
        cases hnone
      · -- The union above is one, and so is its literal for the leaf.
        rw [hu] at hu'
        cases hu'
        rw [ht] at ht'
        cases ht'
        exact ⟨_, .constant hc (List.mem_singleton_self _) rfl⟩
    | @literal e l he hl =>
      have he' : enumOf e ∈ m.enums := by
        rw [henums]
        exact List.mem_map_of_mem he
      exact ⟨_, .member he' (List.mem_map_of_mem hl)⟩
  · intro h
    obtain ⟨line, hline⟩ := h
    cases hline with
    | @constant c k hc hk hvalue =>
      obtain ⟨above, e, hs, hclass⟩ := (mem_classes_iff hm).mp hc
      obtain ⟨ks, hks, rfl⟩ := classOf_eq_ok_iff.mp hclass
      rcases constantsOf_cases hks with
        ⟨hunion, rfl⟩ | ⟨_, _, rfl⟩ | ⟨u, _, t, hleaf, hu, _, ht, rfl⟩
      · rw [List.mem_singleton.mp hk] at hvalue
        exact .discriminator hs hunion hvalue
      · exact absurd hk (by simp)
      · rw [List.mem_singleton.mp hk] at hvalue
        cases hvalue
        exact .tag hs hleaf hu ht
    | @member e name he hmember =>
      rw [henums] at he
      obtain ⟨e', he', rfl⟩ := List.mem_map.mp he
      obtain ⟨l, hl, hpair⟩ := List.mem_map.mp hmember
      have hsame : l = s := congrArg Prod.snd hpair
      subst hsame
      exact .literal he' hl

/-- **When the literals of a module denote the texts of its tree.** Each text has its lines in the
module, and they write nothing else. The literal on a line denotes the 16-bit units of the text,
and the text itself exactly if it has no character beyond U+FFFF. -/
theorem literals_denote_iff (hw : write settings d = .ok text) :
    ∃ indent m, ofDescriptor settings d = .ok m ∧ text = m.text indent ∧
      (∀ s, Spells d s ↔ ∃ line, Line m s line) ∧
      ∀ s line, Line m s line → Holds text (indent ++ line ++ "\n") ∧
        ∀ names, PythonLiteral.Denotes names (Text.asciiLiteral s) (s.toList.flatMap Text.units) ∧
          (PythonLiteral.Denotes names (Text.asciiLiteral s) (PythonLiteral.codePoints s) ↔
            ∀ c ∈ s.toList, c.toNat < 0x10000) := by
  obtain ⟨indent, m, _, hm, rfl⟩ := write_eq_ok_iff.mp hw
  refine ⟨indent, m, hm, rfl, fun s => spells_iff hm, ?_⟩
  intro s line hline
  refine ⟨holds_line hline, ?_⟩
  intro names
  exact ⟨PythonLiteral.denotes_units names s, PythonLiteral.denotes_iff names s⟩

end PythonModule

/-! ## A note with a mood -/

namespace Moods

/-- The mood of a note is a smile, or calm. -/
def document : Json := .obj [("components", .obj [("Note", .obj [("fields", .obj [
  ("mood", .obj [("qualifier", .str "kotlin.String"),
    ("enum", .arr [.str "😀", .str "calm"])])])])])]

def catalog : Catalog := [("Note", {
  name := "Note"
  fields := [{ name := "mood", type := { qualifier := .str "kotlin.String" },
               literals := ["😀", "calm"] }]
  distinct := by decide })]

def schema : Schema := .tied catalog

def mood : EnumClass := ⟨"Mood", ["😀", "calm"]⟩

def noteClass : Descriptor :=
  .single ⟨"Note", .str "", [.str "kotlin.String"]⟩
    [{ name := "mood", type := "Mood", enum := some mood }]

theorem load_document : Document.load document = .ok catalog := rfl

theorem ofCatalog_catalog : Schema.ofCatalog catalog = .ok schema := rfl

theorem compile_note : ({} : Compiler).compile schema (0 : Fin 1) true = .ok noteClass := rfl

theorem exists_text : ∃ text, PythonModule.write {} noteClass = .ok text := ⟨_, rfl⟩

theorem mood_mem : mood ∈ noteClass.distinctEnums := List.mem_cons_self

end Moods

namespace PythonModule

open Moods

/-- The calm mood has a line, and the literal on it denotes it. -/
theorem calm_denoted : ∃ (m : PythonModule) (line : String),
    ofDescriptor {} noteClass = .ok m ∧ Line m "calm" line ∧
      ∀ names, PythonLiteral.Denotes names (Text.asciiLiteral "calm")
        (PythonLiteral.codePoints "calm") := by
  obtain ⟨text, hw⟩ := exists_text
  obtain ⟨indent, m, hm, _, hspells, hlines⟩ := literals_denote_iff hw
  have hspelled : Spells noteClass "calm" :=
    .literal mood_mem (List.mem_cons_of_mem _ List.mem_cons_self)
  obtain ⟨line, hline⟩ := (hspells "calm").mp hspelled
  refine ⟨m, line, hm, hline, ?_⟩
  intro names
  have hcalm : "calm".toList.all (·.toNat < 0x10000) = true := by decide
  apply ((hlines "calm" line hline).2 names).2.mpr
  intro c hc
  simpa using List.all_eq_true.mp hcalm c hc

/-- **A literal need not denote its text**: the smile comes back as two surrogates. -/
theorem not_all_literals_denote :
    ¬ ∀ (document : Json) (catalog : Catalog) (s : Schema) (i : s.Id) (k : Compiler)
      (inherit : Bool) (d : Descriptor) (settings : Settings) (text : String)
      (names : List Char → Option Nat),
      Document.load document = .ok catalog → Schema.ofCatalog catalog = .ok s →
      k.compile s i inherit = .ok d → write settings d = .ok text →
      ∀ t, Spells d t →
        PythonLiteral.Denotes names (Text.asciiLiteral t) (PythonLiteral.codePoints t) := by
  intro hall
  obtain ⟨text, hw⟩ := exists_text
  have hsmile := hall document catalog schema (0 : Fin 1) {} true noteClass {} text
    (fun _ => none) load_document ofCatalog_catalog compile_note hw "😀"
    (.literal mood_mem List.mem_cons_self)
  have hlow := (PythonLiteral.denotes_iff _ _).mp hsmile '😀' List.mem_cons_self
  exact absurd hlow (by decide)

end PythonModule
end ClassModel
