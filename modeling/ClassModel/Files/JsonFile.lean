import ClassModel.Files.Tree
import ClassModel.Json.Parser
import ClassModel.Misfit

/-!
# `Files.JsonFile` — reading a file as JSON

Settings and provided types are read from files. The reasons why a file is not read are texts;
the places that read files say around them what they wanted the file for.
-/

set_option autoImplicit false

namespace ClassModel
namespace Files

/-- Why a file is not read as JSON. -/
inductive JsonFileFault
  /-- Its text is no JSON. -/
  | malformed (reason : String)
  /-- The system does not give its bytes. -/
  | unreadable (reason : String)
  | misfit (m : Misfit)
  deriving DecidableEq, Repr

/-- The value that a file holds. -/
def Tree.readJson (t : Tree) (p : Path) : Except JsonFileFault Json :=
  match t.readText p with
  | .error .missing => .error (.unreadable (noSuchFileText p))
  | .error .directory => .error (.unreadable (isDirectoryText p))
  | .error (.undecodable _) => .error (.misfit .encoding)
  | .ok text =>
    match Json.parse t.levels text with
    | .ok j => .ok j
    | .error (.malformed problem position) => .error (.malformed (problem.located text position))
    | .error .integerTooLong => .error (.misfit .digits)
    | .error .tooDeep => .error (.misfit .depth)

/-- The path that a value names; only a text names one. -/
def Path.ofJson : Json → Except Misfit Path
  | .str s => .ok (.ofText s)
  | _ => .error .path

end Files
end ClassModel
