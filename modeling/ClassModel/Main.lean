import ClassModel.CommandLine.Run
import ClassModel.Screen.Console

/-!
# `Main` — the command

The command looks at what stands at the paths on its command line, runs the command line over
that, prints the lines and writes the files that have changed. It cannot send requests, so a URL
is unreachable.
-/

set_option autoImplicit false

namespace ClassModel
namespace CommandLine

/-- The paths that a command line names. -/
def pathsOf (words : List String) : List Files.Path :=
  match read .strict words with
  | .ok (.run a) =>
    ([a.file, a.config, a.providedTypes, a.output, a.logFile].filterMap given).map Files.Path.ofText
  | _ => []

/-- Is a directory there? -/
def isDirectory (path : String) : IO Bool := do
  try return ← (← IO.FS.realPath path).isDir
  catch _ => return false

/-- Adds what stands at a path, whose directories are known. -/
def look (t : Files.Tree) (p : Files.Path) : IO Files.Tree := do
  match t.placeOf p with
  | .error _ => return t
  | .ok place =>
    if ← isDirectory p.text then return t.setDirectoryAt place
    else
      try return t.setAt place (.bytes (← IO.FS.readBinFile p.text).toList)
      catch _ => return t

/-- Adds what stands at a path and at the directories on the way to it. -/
def lookAlong (t : Files.Tree) (p : Files.Path) : IO Files.Tree :=
  (List.range p.parts.length).foldlM
    (fun t n => look t { p with parts := p.parts.take (n + 1) }) t

/-- Writes the directories and files that one tree has and another has not. -/
def writeChanges (before after : Files.Tree) : IO Unit := do
  for (place, node) in after.nodes do
    if !before.nodes.contains (place, node) then
      let path := "/" ++ "/".intercalate place
      match node with
      | .directory => IO.FS.createDirAll path
      | .file (.text s) => IO.FS.writeFile path s
      | .file (.bytes _) => pure ()

/-- The width of the console. -/
def consoleWidth : IO Nat := do
  match ← IO.getEnv "COLUMNS" with
  | some s => return s.toNat?.getD 80
  | none => return 80

/-- Tells how a run ends, and gives its status. -/
def close : Exit → IO UInt32
  | .status n => return n.toUInt32
  | .help => do
    IO.println usageLine
    return 0
  | .usage line => do
    IO.eprintln (usageLine ++ "\n" ++ line)
    return 2
  | .escape _ => do
    IO.eprintln "model-generator: a value cannot be used"
    return 1

/-- Runs the command. -/
def command (words : List String) : IO UInt32 := do
  let home := (Files.Path.ofText (← IO.currentDir).toString).parts
  let files ← (pathsOf words).foldlM lookAlong { home := home }
  let width ← consoleWidth
  let o := run {
    files := files
    response := .unreachable "requests are not supported"
    console := Screen.console { width := width } } words
  for l in o.lines do IO.println l
  writeChanges files o.files
  close o.exit

end CommandLine
end ClassModel

/-- The command's entry. -/
def main (words : List String) : IO UInt32 := ClassModel.CommandLine.command words
