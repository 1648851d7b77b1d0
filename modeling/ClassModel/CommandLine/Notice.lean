import ClassModel.Console.Basic

/-!
# `CommandLine.Notice` — what a run says

A run ends with a report of what went wrong, or says what it has done. A notice is printed as a
message with tags; the parts that are not the program's own are made safe by the console.
-/

set_option autoImplicit false

namespace ClassModel
namespace CommandLine

/-- What went wrong, in one word. -/
inductive Trouble
  /-- A wrong command line, setting or provided type. -/
  | error
  /-- A source that is not read. -/
  | loading
  /-- A source that holds no component document. -/
  | document
  /-- A component that is not compiled. -/
  | compilation
  deriving DecidableEq, Repr

/-- The heading of a report. -/
def Trouble.heading : Trouble → String
  | .error => "✗ Error:"
  | .loading => "✗ Failed to load input:"
  | .document => "✗ Invalid component document:"
  | .compilation => "✗ Compilation failed:"

/-- A report: what went wrong, and the wording. -/
structure Report where
  trouble : Trouble
  text : String
  deriving DecidableEq, Repr

/-- What a run says. -/
inductive Notice
  | report (r : Report)
  /-- No code is generated, for this reason. -/
  | failure (reason : String)
  | warning (text : String)
  /-- The code is in a file. -/
  | written (file : String)
  deriving DecidableEq, Repr

open Console in
/-- The message of a notice. -/
def Notice.message (escape : String → String) : Notice → String
  | .report r => Style.red.text r.trouble.heading ++ " " ++ escape r.text
  | .failure reason => Style.red.text ("✗ " ++ escape reason)
  | .warning text => Style.yellow.text ("⚠️  " ++ escape text)
  | .written file => Style.green.text "✓" ++ " Generated " ++ escape file

end CommandLine

/-- A notice as a console gets it. -/
def Console.notice (c : Console) (n : CommandLine.Notice) : Console.Printable :=
  .message (n.message c.escape)

end ClassModel
