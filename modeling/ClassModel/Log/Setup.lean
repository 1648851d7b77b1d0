import ClassModel.Entries
import ClassModel.Files.JsonFile
import ClassModel.Json.Print
import ClassModel.Log.Basic
import ClassModel.Text.CaseMap

/-!
# `Log.Setup` — the package's logger, its handlers and its files

All loggers stand below one package logger. Setting the log up gives that logger a level and
handlers of the same level: the console, and a file if one is named. Setting it up again replaces
the handlers; a file keeps what was written to it.
-/

set_option autoImplicit false

namespace ClassModel
namespace Log

/-- The name of the package logger. -/
def packageLogger : String := "model_generator"

/-- The full name of a logger: below the package logger, unless it starts like it. -/
def loggerName (name : String) : String :=
  if packageLogger.toList.isPrefixOf name.toList then name else packageLogger ++ "." ++ name

/-- Does the package logger get what a logger of this full name is told? -/
def isBelowPackage (full : String) : Bool :=
  full == packageLogger || (packageLogger ++ ".").toList.isPrefixOf full.toList

/-- The level to which the log is set up where none is given. -/
def standardLevel : Json := .str "WARNING"

/-- The level that counts where none is set. -/
def rootLevel : Level := warning

/-- A line of a log file. -/
structure Line where
  level : Level
  logger : String
  message : String
  deriving DecidableEq, Repr

/-- The name of the line's level, padded to eight characters. -/
def Line.levelText (l : Line) : String :=
  let n := levelName l.level
  n ++ .ofList (List.replicate (8 - n.length) ' ')

/-- Where entries go. -/
inductive Handler
  | console
  /-- The file at a place. -/
  | file (place : List String)
  deriving DecidableEq, Repr

/-- The log: the level of the package logger, its handlers with their levels, the files that are
there, and what was written to them so far. -/
structure State where
  level : Level := notSet
  handlers : List (Handler × Level) := []
  files : Files.Tree := {}
  written : List (List String × List Line) := []
  deriving Repr

/-- Why the log is not set up. -/
inductive Fault
  /-- A level that is neither a number nor a text, or the name of something else. -/
  | levelKind
  /-- The name of a text that is no level. -/
  | levelName
  /-- A file that is not named by a text. -/
  | misfit (m : Misfit)
  /-- A file that cannot be opened. -/
  | file (o : Files.Obstacle)
  deriving DecidableEq, Repr

/-- The names of levels. -/
def levelNames : List (String × Level) := [
  ("CRITICAL", critical), ("FATAL", critical), ("ERROR", error), ("WARN", warning),
  ("WARNING", warning), ("INFO", info), ("DEBUG", debug), ("NOTSET", notSet)]

/-- The level that a value stands for. A text is a name in any case; an unknown one is a warning,
and two names belong to other things. A truth value counts as a number. -/
def levelOf : Json → Except Fault Level
  | .str s =>
    let name := Text.upper s
    if name = "BASIC_FORMAT" then .error .levelName
    else if name = "_STYLES" then .error .levelKind
    else .ok ((levelNames.lookup name).getD warning)
  | .int n => .ok n
  | .bool b => .ok (if b then 1 else 0)
  | _ => .error .levelKind

/-- A level as it is shown: a name as its number, another value as it was given. -/
def shownLevel (given : Json) (level : Level) : Json :=
  match given with
  | .str _ => .int level
  | j => j

/-- Opens a log file and makes the directories above it. Those stay even if the file cannot be
opened. -/
def openLog (t : Files.Tree) (p : Files.Path) :
    Files.Tree × Except Files.Obstacle (List String) :=
  match t.ensureDirectories p.parent with
  | .error o => (t, .error o)
  | .ok t =>
    match t.openFile p with
    | .error o => (t, .error o)
    | .ok (place, t) => (t, .ok place)

namespace State

/-- Appends a line to what was written to the file at a place. -/
def append (written : List (List String × List Line)) (place : List String) (l : Line) :
    List (List String × List Line) :=
  if written.any (·.1 = place) then
    written.map fun f => if f.1 = place then (place, f.2 ++ [l]) else f
  else written ++ [(place, [l])]

/-- What is written after a handler of some level got a line. -/
def handle (l : Line) (written : List (List String × List Line)) :
    Handler × Level → List (List String × List Line)
  | (.file place, least) => if least ≤ l.level then append written place l else written
  | (.console, _) => written

/-- The least level that is written; a level of zero leaves it to the root. -/
def least (s : State) : Level := if s.level = notSet then rootLevel else s.level

/-- Does the package logger let the entry through? One without a level never gets through. -/
def hears (s : State) (logger : String) (level : Level) : Bool :=
  isBelowPackage (loggerName logger) && s.least ≤ level && 0 < level

/-- The log after an entry of a logger. -/
def tell (s : State) (logger : String) (level : Level) (message : String) : State :=
  if s.hears logger level then
    { s with written := s.handlers.foldl (handle ⟨level, loggerName logger, message⟩) s.written }
  else s

/-- The log with a file handler, if a file is named. -/
def handleFile (s : State) (level : Level) (file : Json) : State × Option Fault :=
  if !file.isSet then (s, none)
  else
    match Files.Path.ofJson file with
    | .error m => (s, some (.misfit m))
    | .ok p =>
      match openLog s.files p with
      | (files, .error o) => ({ s with files := files }, some (.file o))
      | (files, .ok place) =>
        ({ s with files := files, handlers := s.handlers ++ [(.file place, level)] }, none)

/-- The log after it is set up. Its first entry says so. A wrong level changes nothing; a file that
cannot be opened leaves the console alone as a handler. -/
def setUp (s : State) (level file : Json) : State × Option Fault :=
  match levelOf level with
  | .error f => (s, some f)
  | .ok l =>
    match handleFile { s with level := l, handlers := [(.console, l)] } l file with
    | (s, some f) => (s, some f)
    | (s, none) =>
      (s.tell packageLogger debug
        s!"Logging configured (level={(shownLevel level l).display}, file={file.display})", none)

/-- The lines of a file. -/
def read (s : State) (p : Files.Path) : Except Files.Obstacle (List Line) :=
  (s.files.readFile p).map fun f => (s.written.lookup f.1).getD []

end State
end Log
end ClassModel
