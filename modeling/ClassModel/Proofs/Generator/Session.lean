import ClassModel.Generator.Session
import ClassModel.Proofs.Target.Recall

/-!
# A generator in use answers as a new one

What a session keeps is nothing that its generator would not find again: the provided types as they
are read, identifiers as they are made, the templates of its own language (`Coherent`). Each part of
a call reads it that way and keeps it that way, whether or not the call gets code
(`Coherent.answer`). So calls one after the other are answered as if each came first
(`Coherent.answers`), as long as the provided types stay what they are.
-/

set_option autoImplicit false

namespace ClassModel

/-- What makes identifiers of a language. -/
def Language.sanitizer : Language → Identifier.Sanitizer
  | .kotlin => .kotlin
  | .python => .python

/-- **A generator writes with remembered names what it writes without.** -/
theorem Generator.recalls_write (g : Generator) (d : Descriptor) :
    Target.Recall.Recalls g.language.sanitizer (g.language.recallText g.settings d)
      (g.write d) := by
  obtain ⟨language, settings⟩ := g
  cases language with
  | kotlin => exact KotlinFile.recalls_text settings d
  | python => exact PythonModule.recalls_text settings d

namespace Session

variable {g : Generator} {u : Session} {files : Files.Tree}
  {provided : Except ProvidedTypes.Fault (Entries String)}

/-- What a session has kept is what its generator would find again, where reading the provided types
has the given outcome. -/
structure Coherent (g : Generator) (provided : Except ProvidedTypes.Fault (Entries String))
    (u : Session) : Prop where
  generator_eq : u.generator = g
  provided_eq : ∀ es, u.provided = some es → provided = .ok es
  names_sound : Target.Recall.Sound g.language.sanitizer u.names
  templates_eq : ∀ l, u.templates = some l → l = g.language

theorem coherent_new (g : Generator) (provided : Except ProvidedTypes.Fault (Entries String)) :
    Coherent g provided (.new g) where
  generator_eq := rfl
  provided_eq := by
    intro es h
    cases h
  names_sound := Identifier.Memo.sound_nil
  templates_eq := by
    intro l h
    cases h

/-- The provided types are the ones that are read. -/
theorem Coherent.providedTypes (h : Coherent g provided u) (hp : g.providedTypes files = provided) :
    (u.providedTypes files).1 = provided ∧ Coherent g provided (u.providedTypes files).2 := by
  unfold Session.providedTypes
  cases hkept : u.provided with
  | some es => exact ⟨(h.provided_eq es hkept).symm, h⟩
  | none =>
    rw [h.generator_eq, hp]
    cases provided with
    | error f => exact ⟨rfl, h⟩
    | ok es =>
      refine ⟨rfl, rfl, ?_, h.names_sound, h.templates_eq⟩
      intro es' hes
      cases hes
      rfl

/-- A tree is written as without a memory; what was learned is kept even if it is refused. -/
theorem Coherent.write (h : Coherent g provided u) (d : Descriptor) :
    (u.write d).1 = g.write d ∧ Coherent g provided (u.write d).2 := by
  have hlanguage : u.templates.getD u.generator.language = g.language := by
    rw [h.generator_eq]
    cases ht : u.templates with
    | none => rfl
    | some l => exact h.templates_eq l ht
  obtain ⟨hresult, hsound⟩ := g.recalls_write d u.names h.names_sound
  unfold Session.write
  rw [hlanguage, h.generator_eq]
  refine ⟨hresult, rfl, h.provided_eq, hsound, ?_⟩
  intro l hl
  cases hl
  rfl

/-- **One call** is answered as by a new generator, and the session stays coherent, whether the call
gets code or is refused. -/
theorem Coherent.answer (h : Coherent g provided u) (c : Call)
    (hp : g.providedTypes c.files = provided) :
    (u.answer c).1 = g.generate c.files c.schema c.component c.inheritance ∧
      Coherent g provided (u.answer c).2 := by
  obtain ⟨hread, hkept⟩ := h.providedTypes hp
  unfold Session.answer Session.generate Generator.generate
  -- Wherever the call ends, the session is the one after the last part that was done.
  rw [hp]
  cases hu : u.providedTypes c.files with
  | mk result v =>
    rw [hu] at hread hkept
    dsimp only at hread hkept
    subst hread
    cases result with
    | error f => exact ⟨rfl, hkept⟩
    | ok es =>
      unfold Generator.generateWith
      dsimp only
      rw [hkept.generator_eq]
      cases g.classesWith es c.schema c.component c.inheritance with
      | error f => exact ⟨rfl, hkept⟩
      | ok d =>
        obtain ⟨hwritten, hafter⟩ := hkept.write d
        dsimp only
        rw [← hwritten]
        cases hw : v.write d with
        | mk text w =>
          rw [hw] at hafter
          dsimp only at hafter
          cases text with
          | error f => exact ⟨rfl, hafter⟩
          | ok raw => exact ⟨by rw [← hafter.generator_eq], hafter⟩

/-- **Calls one after the other** are answered as by new generators. -/
theorem Coherent.answers (h : Coherent g provided u) (calls : List Call)
    (hp : ∀ c ∈ calls, g.providedTypes c.files = provided) :
    u.answers calls =
      calls.map fun c => g.generate c.files c.schema c.component c.inheritance := by
  induction calls generalizing u with
  | nil => rfl
  | cons c rest ih =>
    obtain ⟨hanswer, hcoherent⟩ := h.answer c (hp c List.mem_cons_self)
    show (u.answer c).1 :: (u.answer c).2.answers rest = _
    rw [hanswer, ih hcoherent fun c hc => hp c (List.mem_cons_of_mem _ hc), List.map_cons]

/-- **A generator has no memory**: calls that find the same provided types are answered by one
session as each is by a new one, whatever was asked and refused before. So are calls to one
sanitizer, under any reserved words and any pattern. -/
theorem remembers_nothing (g : Generator) (calls : List Call)
    (hsame : ∀ c ∈ calls, ∀ c' ∈ calls, g.providedTypes c.files = g.providedTypes c'.files) :
    (new g).answers calls = calls.map (fun c => ((new g).answer c).1) ∧
    (∀ c : Call, ((new g).answer c).1 =
      g.generate c.files c.schema c.component c.inheritance) ∧
    ∀ reserved pattern names,
      Identifier.Memo.calls (Identifier.wordUnder reserved pattern) [] names = names.map fun n =>
        (Identifier.Memo.call (Identifier.wordUnder reserved pattern) [] n.1 n.2).1 := by
  have hnew : ∀ c : Call, ((new g).answer c).1 =
      g.generate c.files c.schema c.component c.inheritance :=
    fun c => ((coherent_new g _).answer c rfl).1
  refine ⟨?_, hnew, ?_⟩
  · -- What reading the provided types gives is fixed by the first call.
    cases calls with
    | nil => rfl
    | cons c rest =>
      have hall : ∀ c' ∈ c :: rest, g.providedTypes c'.files = g.providedTypes c.files :=
        fun c' hc' => hsame c' hc' c List.mem_cons_self
      rw [(coherent_new g _).answers _ hall]
      apply List.map_congr_left
      intro c' _
      exact (hnew c').symm
  · intro reserved pattern names
    rw [Identifier.Memo.calls_of_sound Identifier.Memo.sound_nil]
    apply List.map_congr_left
    intro n _
    exact (Identifier.Memo.call_of_sound Identifier.Memo.sound_nil n.1 n.2).1.symm

end Session

/-! ## A refused call between two others -/

namespace Clash

/-- A component that has a class, a type and a kind; the latter two are the given literals. -/
def leafNamed (name type kind : String) : Component String where
  name := name
  fields := [
    { name := "class", type := { qualifier := .str "str" } },
    { name := "type", type := { qualifier := .str "str" }, literals := [type], required := true },
    { name := "kind", type := { qualifier := .str "str" }, literals := [kind] }]
  distinct := by simp

/-- The payments, whose leaves have two enumerations of one name, and these leaves. -/
def catalog : Catalog := [
  ("Payment", {
    name := "Payment"
    fields := []
    discriminator := some ⟨.str "type", [("CARD", "Card"), ("CASH", "Cash")]⟩
    distinct := List.nodup_nil }),
  ("Card", leafNamed "Card" "CARD" "CREDIT"), ("Cash", leafNamed "Cash" "CASH" "COIN")]

def schema : Schema := .tied catalog

/-- A call for a component of the schema, without inheritance. -/
def callFor (i : schema.Id) : Session.Call := ⟨{}, schema, i, some (.bool false)⟩

/-- Calls for one component, for another one, and for the first one again. -/
def callsFor (i j : schema.Id) : List Session.Call := [callFor i, callFor j, callFor i]

/-- A generator of Python. -/
def python : Generator := ⟨.python, {}⟩

end Clash

namespace Session

open Clash

/-- The payments are refused after the names of their leaves have been looked up; the card gets the
same code before and after that. -/
theorem card_before_and_after :
    (∀ c ∈ callsFor (1 : Fin 3) (0 : Fin 3), ∀ c' ∈ callsFor (1 : Fin 3) (0 : Fin 3),
      python.providedTypes c.files = python.providedTypes c'.files) ∧
    ∃ card f, (new python).answers (callsFor (1 : Fin 3) (0 : Fin 3)) =
      [.ok card, .error (.target (.schema f)), .ok card] := by
  have hsame : ∀ c ∈ callsFor (1 : Fin 3) (0 : Fin 3), ∀ c' ∈ callsFor (1 : Fin 3) (0 : Fin 3),
      python.providedTypes c.files = python.providedTypes c'.files :=
    fun c _ c' _ => rfl
  obtain ⟨hanswers, hnew, _⟩ := remembers_nothing python _ hsame
  have hcard : ∃ card, ((new python).answer (callFor (1 : Fin 3))).1 = .ok card := by
    rw [hnew]
    exact ⟨_, rfl⟩
  have hrefused : ∃ f, ((new python).answer (callFor (0 : Fin 3))).1 =
      .error (.target (.schema f)) := by
    rw [hnew]
    exact ⟨_, rfl⟩
  obtain ⟨card, hcard⟩ := hcard
  obtain ⟨f, hrefused⟩ := hrefused
  refine ⟨hsame, card, f, ?_⟩
  have hanswers : (new python).answers (callsFor (1 : Fin 3) (0 : Fin 3)) =
      [((new python).answer (callFor (1 : Fin 3))).1, ((new python).answer (callFor (0 : Fin 3))).1,
        ((new python).answer (callFor (1 : Fin 3))).1] := hanswers
  rw [hanswers, hcard, hrefused]

end Session
end ClassModel
