import ClassModel.CommandLine.Run
import ClassModel.Generator.FromDocument
import ClassModel.Proofs.Compile.Loaded
import ClassModel.Proofs.Source.Fetching

/-!
# Two ways to a generator

The command line and the library both come from a document, the name of a component and the name of
a language to a generator and a component. The command line looks the language up first and loads
the settings under the name that the language has; the library loads the document first and the
settings under the name that the registry has. `Order` is a command line that asks for code, and
`Prepares` what the library prepares for it; the command line prepares the same
(`taskOf_eq_ok_iff`).
-/

set_option autoImplicit false

namespace ClassModel

/-! ## The languages -/

namespace Registry

/-- A bundled language is registered under its own name. -/
theorem name_of_bundled {key : String} {l : Language} (h : bundled.primary.get? key = some l) :
    key = l.name := by
  have hprimary : bundled.primary = [("kotlin", .kotlin), ("python", .python)] := by decide
  rw [hprimary, Entries.get?, List.lookup_cons, List.lookup_cons] at h
  split at h
  · next heq =>
    cases h
    exact beq_iff_eq.mp heq
  · split at h
    · next heq =>
      cases h
      exact beq_iff_eq.mp heq
    · cases h

/-- **A generator is made** for the language that a name stands for, with the settings that are
loaded under the language's own name. -/
theorem create_eq_ok_iff {files : Files.Tree} {name : String} {config : Json} {g : Generator} :
    bundled.create files name config = .ok g ↔
      bundled.generatorOf name = .ok g.language ∧
        settingsFor files g.language.name config = .ok g.settings := by
  rw [create, generatorOf]
  cases bundled.resolve name with
  | error e => simp
  | ok primary =>
    dsimp only
    cases hp : bundled.primary.get? primary with
    | none => simp
    | some l =>
      have hname := name_of_bundled hp
      subst hname
      dsimp only
      constructor
      · intro h
        split at h
        · cases h
        · next settings hs =>
          cases h
          exact ⟨rfl, hs⟩
      · rintro ⟨hl, hs⟩
        cases hl
        rw [hs]

end Registry

/-! ## The document -/

namespace Source

/-- What is logged on the way makes no difference to the result. -/
theorem result_readFile {files : Files.Tree} {file : String} {source text : String}
    (hfile : files.isFile (.ofText file) = .ok true) :
    (readFile files file).result = .ok (source, text) ↔
      source = (Files.Path.ofText file).text ∧ files.readText (.ofText file) = .ok text := by
  simp only [readFile, hfile]
  split <;> cases files.readText (.ofText file) <;> simp [eq_comm]

/-- A text is taken as a document if it is one that could be loaded. -/
theorem result_parse {levels : Option Nat} {text source : String} {document : Json}
    {catalog : Catalog}
    (h : Document.load document = .ok catalog) :
    (parse levels text source).result = .ok document ↔ Json.parse levels text = .ok document := by
  rw [parse]
  cases hjson : Json.parse levels text with
  | error e => cases e <;> simp [Traced.fail]
  | ok j =>
    constructor
    · intro hr
      dsimp only at hr
      split at hr
      · cases hr
      · split at hr
        · split at hr
          · rw [result_logged_bind, result_pure] at hr
            cases hr
            rfl
          · rw [result_pure] at hr
            cases hr
            rfl
        · cases hr
    · intro hj
      cases hj
      -- JSON without an object of components is refused here, but then it could not be loaded.
      obtain ⟨components, hcomponents⟩ : ∃ es, document.field? "components" = some (.obj es) := by
        rw [Document.load] at h
        split at h
        · next es hes => exact ⟨es, hes⟩
        · cases h
      obtain ⟨es, hes, hget⟩ := Option.bind_eq_some_iff.mp hcomponents
      dsimp only
      rw [hes]
      dsimp only
      rw [hget]
      dsimp only
      split <;> rfl

theorem result_components {document : Json} {catalog : Catalog} :
    (components document).result = .ok catalog ↔ Document.load document = .ok catalog := by
  rw [components]
  cases Document.load document <;> simp [Traced.pure]

/-- **A document is loaded from a file** exactly if the file's text is the JSON of a document that
can be loaded. -/
theorem result_load {files : Files.Tree} {response : Response} {file : String} {timeout : Json}
    {catalog : Catalog} (hne : file ≠ "") (hfile : files.isFile (.ofText file) = .ok true) :
    (∃ source, (load files response (.str file) .null timeout).result = .ok (source, catalog)) ↔
      ∃ text document, files.readText (.ofText file) = .ok text ∧
        Json.parse files.levels text = .ok document ∧ Document.load document = .ok catalog := by
  have hset : (Json.str file).isSet = true := bne_iff_ne.mpr hne
  have hnull : Json.null.isSet = false := rfl
  simp only [load, hset, hnull]
  constructor
  · rintro ⟨source, h⟩
    obtain ⟨⟨_, text⟩, hread, h⟩ := result_bind_eq_ok_iff.mp h
    obtain ⟨document, hparse, h⟩ := result_bind_eq_ok_iff.mp h
    obtain ⟨_, hcatalog, h⟩ := result_bind_eq_ok_iff.mp h
    cases h
    have hload := result_components.mp hcatalog
    exact ⟨text, document, ((result_readFile hfile).mp hread).2,
      (result_parse hload).mp hparse, hload⟩
  · rintro ⟨text, document, htext, hjson, hload⟩
    refine ⟨(Files.Path.ofText file).text, ?_⟩
    apply result_bind_eq_ok_iff.mpr
    refine ⟨_, (result_readFile hfile).mpr ⟨rfl, htext⟩, ?_⟩
    apply result_bind_eq_ok_iff.mpr
    refine ⟨document, (result_parse hload).mpr hjson, ?_⟩
    exact result_bind_eq_ok_iff.mpr ⟨catalog, result_components.mpr hload, rfl⟩

end Source

/-- Code is made of classes; it has the name of the component and the inheritance mode of the
settings. -/
theorem Generator.spec_of_generate {g : Generator} {files : Files.Tree} {s : Schema} {i : s.Id}
    {r : Generated} (h : g.generate files s i none = .ok r) :
    (∃ d, g.classes files s i none = .ok d) ∧ r.component = s.name i ∧
      r.inheritance = g.settings.withInheritance := by
  rw [generate] at h
  rw [classes]
  split at h
  · cases h
  · next provided hprovided =>
    rw [generateWith] at h
    split at h
    · cases h
    · next d hd =>
      split at h
      · cases h
      · cases h
        exact ⟨⟨d, hd⟩, rfl, rfl⟩

namespace Document

/-- A component that is found in a loaded document has the name that it is found by. -/
theorem name_of_find? {document : Json} {catalog : Catalog} {s : Schema} {i : s.Id} {name : String}
    (hload : load document = .ok catalog) (hs : Schema.ofCatalog catalog = .ok s)
    (hi : s.find? name = some i) : s.name i = name := by
  obtain ⟨raw, hdoc, hknown, _, hstands⟩ := forall₂_standsFor hload
  have hn : raw.keys.Nodup := nodup_keys_of_components? hdoc
  obtain ⟨s', hs', hties⟩ := exists_ofCatalog_of_standsFor hn hknown hstands
  rw [hs] at hs'
  cases hs'
  rw [name_eq_key hn hstands hties]
  simpa using List.find?_some hi

/-- The library generates code from a document that can be loaded and has the component, with a
generator that can be made. -/
theorem generate_eq_ok_iff {files : Files.Tree} {document : Json} {component language : String}
    {config : Json} {inheritance : Option Json} {r : Generator.Generated} :
    generate files document component language config inheritance = .ok r ↔
      ∃ catalog s i g, load document = .ok catalog ∧ Schema.ofCatalog catalog = .ok s ∧
        s.find? component = some i ∧ Registry.bundled.create files language config = .ok g ∧
        g.generate files s i inheritance = .ok r := by
  rw [generate]
  constructor
  · intro h
    split at h
    · cases h
    · next catalog hload =>
      split at h
      · cases h
      · next s hs =>
        split at h
        · cases h
        · next i hi =>
          split at h
          · cases h
          · next g hg =>
            split at h
            · next r' hr =>
              cases h
              exact ⟨catalog, s, i, g, hload, hs, hi, hg, hr⟩
            · cases h
  · rintro ⟨catalog, s, i, g, hload, hs, hi, hg, hr⟩
    rw [hload]
    dsimp only
    rw [hs]
    dsimp only
    rw [hi]
    dsimp only
    rw [hg]
    dsimp only
    rw [hr]

end Document

namespace CommandLine

/-- A command line that asks for the code of a component of a document file, in a language, and for
a file to put it into. No value that is given is empty. -/
structure Order where
  file : String
  component : String
  language : String
  output : String
  packageName : Option String := none
  providedTypes : Option String := none
  noInheritance : Bool := false
  tree : Bool := false
  verbose : Bool := false
  file_ne : file ≠ "" := by decide
  component_ne : component ≠ "" := by decide
  output_ne : output ≠ "" := by decide
  packageName_ne : packageName ≠ some "" := by decide
  providedTypes_ne : providedTypes ≠ some "" := by decide

namespace Order

/-- What the words of the command line say. -/
def arguments (o : Order) : Arguments where
  file := some o.file
  component := some o.component
  language := some o.language
  output := some o.output
  packageName := o.packageName
  providedTypes := o.providedTypes
  noInheritance := o.noInheritance
  tree := o.tree
  verbose := o.verbose

/-- The object of the settings that are given, and of no others. -/
def overrides (o : Order) : Layer :=
  (match o.packageName with
    | none => []
    | some p => [("package_name", .str p)]) ++
  (match o.providedTypes with
    | none => []
    | some p => [("provided_types_file", .str p)]) ++
  (if o.noInheritance then [("with_inheritance", .bool false)] else [])

/-- What the library prepares from the file of the command line, with its component, its language
and its overrides. -/
def Prepares (o : Order) (w : Surroundings) (t : Task) : Prop :=
  ∃ text document catalog, w.files.readText (.ofText o.file) = .ok text ∧
    Json.parse w.files.levels text = .ok document ∧ Document.load document = .ok catalog ∧
    Schema.ofCatalog catalog = .ok t.schema ∧ t.schema.find? o.component = some t.component ∧
    Registry.bundled.create w.files o.language (.obj o.overrides) = .ok t.generator

/-- The library gets code from the file of the command line, with its component, its language and
its overrides. -/
def Gets (o : Order) (w : Surroundings) (r : Generator.Generated) : Prop :=
  ∃ text document, w.files.readText (.ofText o.file) = .ok text ∧
    Json.parse w.files.levels text = .ok document ∧
    Document.generate w.files document o.component o.language (.obj o.overrides) none = .ok r

/-- The library compiles the component of the command line to a class tree. -/
def Compiles (o : Order) (w : Surroundings) (d : Descriptor) : Prop :=
  ∃ t, o.Prepares w t ∧ t.generator.classes w.files t.schema t.component none = .ok d

variable {o : Order} {w : Surroundings} {t : Task} {r : Generator.Generated}

theorem gets_iff : o.Gets w r ↔ ∃ t, o.Prepares w t ∧
    t.generator.generate w.files t.schema t.component none = .ok r := by
  constructor
  · rintro ⟨text, document, htext, hjson, h⟩
    obtain ⟨catalog, s, i, g, hload, hs, hi, hg, hr⟩ := Document.generate_eq_ok_iff.mp h
    exact ⟨⟨g, s, i⟩, ⟨text, document, catalog, htext, hjson, hload, hs, hi, hg⟩, hr⟩
  · rintro ⟨t, ⟨text, document, catalog, htext, hjson, hload, hs, hi, hg⟩, hr⟩
    exact ⟨text, document, htext, hjson,
      Document.generate_eq_ok_iff.mpr ⟨catalog, _, _, _, hload, hs, hi, hg, hr⟩⟩

theorem Gets.unique {r' : Generator.Generated} (h : o.Gets w r) (h' : o.Gets w r') : r = r' := by
  obtain ⟨text, document, htext, hjson, hr⟩ := h
  obtain ⟨text', document', htext', hjson', hr'⟩ := h'
  rw [htext] at htext'
  cases htext'
  rw [hjson] at hjson'
  cases hjson'
  rw [hr] at hr'
  exact Except.ok.inj hr'

/-- The code is for the component that is asked for. -/
theorem Gets.component (h : o.Gets w r) : r.component = o.component := by
  obtain ⟨t, ⟨_, _, _, _, _, hload, hs, hi, _⟩, hr⟩ := gets_iff.mp h
  rw [(Generator.spec_of_generate hr).2.1]
  exact Document.name_of_find? hload hs hi

/-- Does the library get code? -/
def getsCode (o : Order) (w : Surroundings) : Bool :=
  match w.files.readText (.ofText o.file) with
  | .error _ => false
  | .ok text =>
    match Json.parse w.files.levels text with
    | .error _ => false
    | .ok document =>
      match Document.generate w.files document o.component o.language (.obj o.overrides) none with
      | .error _ => false
      | .ok _ => true

theorem getsCode_iff : o.getsCode w = true ↔ ∃ r, o.Gets w r := by
  rw [getsCode]
  constructor
  · intro h
    split at h
    · cases h
    · next text htext =>
      split at h
      · cases h
      · next document hjson =>
        split at h
        · cases h
        · next r hr => exact ⟨r, text, document, htext, hjson, hr⟩
  · rintro ⟨r, text, document, htext, hjson, hr⟩
    rw [htext]
    dsimp only
    rw [hjson]
    dsimp only
    rw [hr]

instance (o : Order) (w : Surroundings) : Decidable (∃ r, o.Gets w r) :=
  decidable_of_iff (o.getsCode w = true) getsCode_iff

/-- A value that is not empty counts. -/
theorem given_of_ne {value : Option String} (h : value ≠ some "") : given value = value := by
  cases value with
  | none => rfl
  | some s => exact Option.filter_some_pos (by simpa using h)

theorem overridesOf_arguments (o : Order) : overridesOf o.arguments = o.overrides := by
  unfold overridesOf overrides
  rw [show o.arguments.packageName = o.packageName from rfl,
    show o.arguments.providedTypes = o.providedTypes from rfl, given_of_ne o.packageName_ne,
    given_of_ne o.providedTypes_ne]
  cases o.packageName <;> cases o.providedTypes <;> rfl

theorem languageOf_eq_ok_iff {l : Language} :
    languageOf o.arguments = .ok l ↔ Registry.bundled.generatorOf o.language = .ok l := by
  unfold languageOf
  rw [show o.arguments.language.getD "" = o.language from rfl]
  dsimp only
  cases Registry.bundled.generatorOf o.language <;> simp

theorem componentOf_eq_ok_iff {catalog : Catalog} {name : String} {s : Schema} {i : s.Id} :
    componentOf catalog name = .ok ⟨s, i⟩ ↔
      Schema.ofCatalog catalog = .ok s ∧ s.find? name = some i := by
  rw [componentOf]
  constructor
  · intro h
    split at h
    · cases h
    · next s' hs =>
      split at h
      · cases h
      · next i' hi =>
        cases h
        exact ⟨hs, hi⟩
  · rintro ⟨hs, hi⟩
    rw [hs]
    dsimp only
    rw [hi]

theorem generatorOf_eq_ok_iff {l : Language} {g : Generator} :
    generatorOf w o.arguments l = .ok g ↔ g.language = l ∧
      Registry.settingsFor w.files l.name (.obj o.overrides) = .ok g.settings := by
  rw [generatorOf, overridesOf_arguments, Registry.settingsFor,
    show jsonOf o.arguments.config = .null from rfl]
  dsimp only
  cases Settings.load w.files (.str l.name) (.obj o.overrides) .null with
  | error f => simp
  | ok settings =>
    constructor
    · intro h
      cases h
      exact ⟨rfl, rfl⟩
    · rintro ⟨rfl, h⟩
      cases h
      rfl

/-- **The command line prepares what the library prepares.** -/
theorem taskOf_eq_ok_iff (hfile : w.files.isFile (.ofText o.file) = .ok true) :
    taskOf w o.arguments = .ok t ↔ o.Prepares w t := by
  have hsome : ∀ s : String, s ≠ "" → given (some s) = some s :=
    fun s hs => given_of_ne (by simpa using hs)
  rw [taskOf, show o.arguments.file = some o.file from rfl,
    show o.arguments.component = some o.component from rfl, hsome _ o.file_ne,
    hsome _ o.component_ne]
  constructor
  -- The command line finds the language first, then the document, then the settings; a task needs
  -- all of them, so the order makes no difference to it.
  · intro h
    dsimp only at h
    split at h
    · cases h
    · split at h
      · cases h
      · next l hl =>
        split at h
        · cases h
        · next source catalog hload =>
          split at h
          · cases h
          · next s i hcomponent =>
            split at h
            · cases h
            · next g hg =>
              cases h
              obtain ⟨text, document, htext, hjson, hload⟩ :=
                (Source.result_load o.file_ne hfile).mp ⟨source, hload⟩
              obtain ⟨hs, hi⟩ := componentOf_eq_ok_iff.mp hcomponent
              obtain ⟨rfl, hsettings⟩ := generatorOf_eq_ok_iff.mp hg
              exact ⟨text, document, catalog, htext, hjson, hload, hs, hi,
                Registry.create_eq_ok_iff.mpr ⟨languageOf_eq_ok_iff.mp hl, hsettings⟩⟩
  · rintro ⟨text, document, catalog, htext, hjson, hload, hs, hi, hg⟩
    obtain ⟨hl, hsettings⟩ := Registry.create_eq_ok_iff.mp hg
    have hloaded : ∃ source, (Source.load w.files w.response (jsonOf (some o.file))
        (jsonOf o.arguments.url) Source.standardTimeout).result = .ok (source, catalog) :=
      (Source.result_load o.file_ne hfile).mpr ⟨text, document, htext, hjson, hload⟩
    obtain ⟨source, hsource⟩ := hloaded
    dsimp only
    rw [languageOf_eq_ok_iff.mpr hl]
    dsimp only
    rw [hsource]
    dsimp only
    rw [componentOf_eq_ok_iff.mpr ⟨hs, hi⟩]
    dsimp only
    rw [generatorOf_eq_ok_iff.mpr ⟨rfl, hsettings⟩]
    rfl

/-- The inheritance mode is the standard one unless it is turned off. -/
theorem withInheritance_of_load {files : Files.Tree} {l : Language} {s : Settings} (o : Order)
    (h : Settings.load files (.str l.name) (.obj o.overrides) .null = .ok s) :
    s.withInheritance = .bool (!o.noInheritance) := by
  obtain ⟨_, _, _, _, package, provided, noInheritance, _, _⟩ := o
  cases l <;> cases package <;> cases provided <;> cases noInheritance <;> (cases h; rfl)

theorem Prepares.withInheritance (h : o.Prepares w t) :
    t.generator.settings.withInheritance = .bool (!o.noInheritance) := by
  obtain ⟨_, _, _, _, _, _, _, _, hg⟩ := h
  obtain ⟨_, hsettings⟩ := Registry.create_eq_ok_iff.mp hg
  rw [Registry.settingsFor] at hsettings
  dsimp only at hsettings
  split at hsettings
  · next settings hload =>
    cases hsettings
    exact withInheritance_of_load o hload
  · cases hsettings

/-- The code is in the inheritance mode that is asked for. -/
theorem Gets.inheritance (h : o.Gets w r) : r.inheritance = .bool (!o.noInheritance) := by
  obtain ⟨t, hprepares, hr⟩ := gets_iff.mp h
  exact (Generator.spec_of_generate hr).2.2.trans hprepares.withInheritance

end Order
end CommandLine
end ClassModel
