import ClassModel.Files.Tree
import ClassModel.Json.Parser
import ClassModel.Log.Basic
import ClassModel.Schema.Document
import ClassModel.Source.Url
import ClassModel.Text.CaseMap

/-!
# `Source.Document` — where documents come from

A document is read from a file or fetched from a URL, its text is read as JSON, and its outer
shape is checked before its components are loaded. Besides its result each step tells what it has
logged and what it has requested.
-/

set_option autoImplicit false

namespace ClassModel
namespace Source

/-- A request sent to a server. -/
structure Request where
  url : String
  timeout : Json
  headers : List (String × String)
  deriving Repr

/-- What comes of a request, from sending it up to the check of its status. That check is the
client's own: which statuses pass is not decided here. -/
inductive Response
  /-- The answer has passed the check. -/
  | accepted (text : String)
  /-- The check or the exchange has failed with an HTTP error, with the status if there is one. -/
  | refused (status : Option Int)
  | timedOut
  | unreachable (reason : String)
  deriving DecidableEq, Repr

/-- Why a document is not loaded. -/
inductive Fault
  | noSource
  | twoSources
  | missingFile (path : String)
  | unreadableFile (path reason : String)
  | wrongUrl (url : String)
  /-- A URL whose authority cannot be one. -/
  | brokenUrl
  | timedOut (url : String)
  | refused (status url : String)
  | unreachable (url reason : String)
  | malformed (source : String) (problem : Json.Problem) (line column : Nat)
  | notObject (source kind : String)
  | noComponents (source : String)
  | document (f : Document.Fault)
  | misfit (m : Misfit)
  deriving DecidableEq, Repr

/-- The wording of a fault; a misfit and a broken URL have none. -/
def Fault.message : Fault → String
  | .noSource => "Either file_path or url must be provided"
  | .twoSources => "Cannot specify both file_path and url"
  | .missingFile path => s!"Component document not found: {path}"
  | .unreadableFile path reason => s!"Cannot read component document {path}: {reason}"
  | .wrongUrl url => s!"Component document URL must be http(s): {url}"
  | .timedOut url => s!"Timed out fetching component document {url}"
  | .refused status url => s!"HTTP error {status} fetching component document {url}"
  | .unreachable url reason => s!"Cannot fetch component document {url}: {reason}"
  | .malformed source problem line column =>
    s!"Invalid JSON in {source} at line {line}, column {column}: {problem.message}"
  | .notObject source kind => s!"{source}: component document must be a JSON object, got {kind}"
  | .noComponents source => s!"{source}: missing top-level 'components' object"
  | .document f => f.message
  | .brokenUrl | .misfit _ => ""

/-- The seconds that a request may take where none are given. -/
def standardTimeout : Json := .int 30

/-- A result with what was logged and requested on the way. -/
structure Traced (α : Type) where
  result : Except Fault α
  log : List Log.Entry := []
  requests : List Request := []

namespace Traced

variable {α β : Type}

/-- A result after which nothing was logged. -/
def pure (a : α) : Traced α := ⟨.ok a, [], []⟩

/-- A fault after which nothing was logged. -/
def fail (f : Fault) : Traced α := ⟨.error f, [], []⟩

/-- Goes on with a result; a fault ends it. -/
def bind (t : Traced α) (next : α → Traced β) : Traced β :=
  match t.result with
  | .error f => ⟨.error f, t.log, t.requests⟩
  | .ok a =>
    let u := next a
    ⟨u.result, t.log ++ u.log, t.requests ++ u.requests⟩

instance : Monad Traced where
  pure := Traced.pure
  bind := Traced.bind

/-- Logs an entry. -/
def logged (level : Log.Level) (message : String) : Traced Unit := ⟨.ok (), [⟨level, message⟩], []⟩

/-- Records a request. -/
def requested (r : Request) : Traced Unit := ⟨.ok (), [], [r]⟩

end Traced

/-- The text of a file, and the path as its source. -/
def readFile (files : Files.Tree) (file : String) : Traced (String × String) := do
  let path := Files.Path.ofText file
  match files.isFile path with
  | .error m => Traced.fail (.misfit m)
  | .ok false => Traced.fail (.missingFile path.text)
  | .ok true =>
    if Text.lower path.suffix ≠ ".json" then
      Traced.logged Log.warning s!"Component document {path.text} does not have a .json extension"
    match files.readText path with
    | .ok text => return (path.text, text)
    | .error f =>
      let reason := match f with
        | .undecodable u => Files.undecodableText u
        | .directory => Files.isDirectoryText path
        | .missing => Files.noSuchFileText path
      Traced.logged Log.error s!"Error reading component document {path.text}: {reason}"
      Traced.fail (.unreadableFile path.text reason)

/-- The text that a URL is answered with, and the URL as its source. -/
def fetch (response : Response) (url : String) (timeout : Json) : Traced (String × String) :=
  match Url.ofText? url with
  | none => Traced.fail .brokenUrl
  | some u =>
    if !u.isFetchable then Traced.fail (.wrongUrl url)
    else do
      Traced.requested ⟨url, timeout, [("Accept", "application/json")]⟩
      match response with
      | .timedOut =>
        Traced.logged Log.error s!"Timed out after {timeout.display}s fetching {url}"
        Traced.fail (.timedOut url)
      | .unreachable reason =>
        Traced.logged Log.error s!"Request error fetching {url}: {reason}"
        Traced.fail (.unreachable url reason)
      | .refused status =>
        let shown := status.elim "?" toString
        Traced.logged Log.error s!"HTTP error {shown} fetching {url}"
        Traced.fail (.refused shown url)
      | .accepted text => return (url, text)

/-- The document that a text holds, with so many levels at most, if there is a bound. -/
def parse (levels : Option Nat) (text source : String) : Traced Json :=
  match Json.parse levels text with
  | .error .integerTooLong => Traced.fail (.misfit .digits)
  | .error .tooDeep => Traced.fail (.misfit .depth)
  | .error (.malformed problem position) =>
    let cs := text.toList
    Traced.fail (.malformed source problem (Json.lineOf cs position) (Json.columnOf cs position))
  | .ok document =>
    match document.entries? with
    | none => Traced.fail (.notObject source document.kindName)
    | some es =>
      match es.get? "components" with
      | some (.obj components) => do
        if components.isEmpty then
          Traced.logged Log.warning s!"Component document {source} declares no components"
        return document
      | _ => Traced.fail (.noComponents source)

/-- The components of a document. -/
def components (document : Json) : Traced Catalog :=
  match Document.load document with
  | .error f => Traced.fail (.document f)
  | .ok catalog => Traced.pure catalog

/-- The source and the components of a document that is read from a file or fetched from a URL;
exactly one of them has to be given, and an empty one is none. -/
def load (files : Files.Tree) (response : Response) (file url : Json) (timeout : Json) :
    Traced (String × Catalog) :=
  if !file.isSet && !url.isSet then Traced.fail .noSource
  else if file.isSet && url.isSet then Traced.fail .twoSources
  else do
    let (source, text) ←
      match file.isSet, file, url with
      | true, .str file, _ => readFile files file
      | true, _, _ => Traced.fail (.misfit .path)
      | false, _, .str url => fetch response url timeout
      | false, _, _ => Traced.fail (.misfit .parts)
    return (source, ← components (← parse files.levels text source))

end Source
end ClassModel
