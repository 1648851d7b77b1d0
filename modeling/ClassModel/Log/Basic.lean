/-!
# `Log` — levels and entries

An entry has a level, a number; the levels in use have names.
-/

set_option autoImplicit false

namespace ClassModel
namespace Log

/-- How grave an entry is. -/
abbrev Level := Int

def notSet : Level := 0
def debug : Level := 10
def info : Level := 20
def warning : Level := 30
def error : Level := 40
def critical : Level := 50

/-- The name of a level. -/
def levelName (l : Level) : String :=
  if l = critical then "CRITICAL"
  else if l = error then "ERROR"
  else if l = warning then "WARNING"
  else if l = info then "INFO"
  else if l = debug then "DEBUG"
  else if l = notSet then "NOTSET"
  else s!"Level {l}"

/-- An entry of the log. -/
structure Entry where
  level : Level
  message : String
  deriving DecidableEq, Repr

end Log
end ClassModel
