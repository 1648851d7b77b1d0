import ClassModel.Generator.Basic
import ClassModel.Target.Recall

/-!
# `Generator.Session` — one generator, used several times

A session reads the provided types once, sets up the templates of its language once, and remembers
the identifiers that it made for names. A fault is not remembered, but what was learned before it
is kept.
-/

set_option autoImplicit false

namespace ClassModel

/-- A generator in use, and what it has kept so far. -/
structure Session where
  generator : Generator
  /-- The provided types, once they have been read. -/
  provided : Option (Entries String) := none
  /-- The identifiers that were made for names. -/
  names : Identifier.Memo := []
  /-- The language whose templates have been set up. -/
  templates : Option Language := none
  deriving Repr

namespace Session

/-- A generator that has not been used. -/
def new (g : Generator) : Session := { generator := g }

/-- The provided types, read unless they have been; a fault is not remembered. -/
def providedTypes (u : Session) (files : Files.Tree) :
    Except ProvidedTypes.Fault (Entries String) × Session :=
  match u.provided with
  | some es => (.ok es, u)
  | none =>
    match u.generator.providedTypes files with
    | .ok es => (.ok es, { u with provided := some es })
    | .error f => (.error f, u)

/-- The text of a class tree, and the session after it. -/
def write (u : Session) (d : Descriptor) : Except Target.Fault String × Session :=
  let language := u.templates.getD u.generator.language
  let (result, names) := (language.recallText u.generator.settings d).run u.names
  (result, { u with names := names, templates := some language })

/-- The code of a component, and the session after it. -/
def generate (u : Session) (files : Files.Tree) (s : Schema) (i : s.Id)
    (inheritance : Option Json) : Except Generator.Fault Generator.Generated × Session :=
  match u.providedTypes files with
  | (.error f, u) => (.error (.provided f), u)
  | (.ok provided, u) =>
    match u.generator.classesWith provided s i inheritance with
    | .error f => (.error f, u)
    | .ok d =>
      match u.write d with
      | (.error f, u) => (.error (.target f), u)
      | (.ok raw, u) => (.ok (u.generator.resultOf s i inheritance d raw), u)

/-- A request for the code of a component, and the files that are there when it is made. -/
structure Call where
  files : Files.Tree
  schema : Schema
  component : schema.Id
  inheritance : Option Json := none

/-- The answer to a call, and the session after it. -/
def answer (u : Session) (c : Call) : Except Generator.Fault Generator.Generated × Session :=
  u.generate c.files c.schema c.component c.inheritance

/-- The answers to calls, one after the other. -/
def answers (u : Session) : List Call → List (Except Generator.Fault Generator.Generated)
  | [] => []
  | c :: rest =>
    let (result, u) := u.answer c
    result :: u.answers rest

end Session
end ClassModel
