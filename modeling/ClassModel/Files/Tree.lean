import ClassModel.Ascending
import ClassModel.Entries
import ClassModel.Files.Path
import ClassModel.Misfit
import ClassModel.Text.Escape
import ClassModel.Text.Utf8

/-!
# `Files.Tree` — the files that are there

A tree of files, looked up the way a file system does it: every part of a path but the last must
be a directory, two dots go back to the directory before, and above the root there is the root.
A path that does not start at the root starts at the working directory. Of the directories above
the working directory nothing is known but that they are there.
-/

set_option autoImplicit false

namespace ClassModel
namespace Files

/-- What a file holds: a text, or bytes that need not be one. -/
inductive Content
  | text (s : String)
  | bytes (bs : List UInt8)
  deriving DecidableEq, Repr

/-- What stands at a place. -/
inductive Node
  | directory
  | file (content : Content)
  deriving DecidableEq, Repr

/-- A working directory whose name no path can spell. -/
def somewhere : List String := [""]

/-- The place of the working directory, and files and directories by their place. The directories
above a place are there too. -/
structure Tree where
  home : List String := somewhere
  nodes : List (List String × Node) := []
  /-- How many lists and objects may stand inside each other in a file that is read as JSON, if
  there is a bound. It comes from what the program runs on. -/
  levels : Option Nat := none
  deriving Repr

/-- Why a file is not read. -/
inductive ReadFault
  | missing
  | directory
  | undecodable (f : Text.Utf8Fault)
  deriving DecidableEq, Repr

/-- What is in the way of a file or a directory at a path. -/
inductive Obstacle
  /-- No file can have the path. -/
  | impossible
  /-- The path or a name in it is too long. -/
  | tooLong
  /-- A directory on the way is not there. -/
  | missing
  /-- A file stands on the way. -/
  | underFile
  /-- A directory stands at the path. -/
  | directory
  /-- Something stands at the path. -/
  | taken
  deriving DecidableEq, Repr

namespace Tree

/-- Is the place a directory? -/
def isDirectoryAt (t : Tree) (place : List String) : Bool :=
  place.isPrefixOf t.home ||
    t.nodes.any fun n =>
      (n.1 == place && n.2 == .directory) || (place.isPrefixOf n.1 && n.1 != place)

/-- What stands at a place. -/
def at? (t : Tree) (place : List String) : Option Node :=
  if t.isDirectoryAt place then some .directory else t.nodes.lookup place

/-- The place that the parts of a path lead to from another one. -/
def follow (t : Tree) (here : List String) : List String → Except Obstacle (List String)
  | [] => .ok here
  | part :: rest =>
    match t.at? here with
    | none => .error .missing
    | some (.file _) => .error .underFile
    | some .directory =>
      if Path.isLongName part then .error .tooLong
      else t.follow (if part = ".." then here.dropLast else here ++ [part]) rest

/-- The place where a path starts. -/
def start (t : Tree) (p : Path) : List String := if p.root = "" then t.home else []

/-- The place of a path. -/
def placeOf (t : Tree) (p : Path) : Except Obstacle (List String) :=
  if p.isImpossible then .error .impossible
  else if p.isLong then .error .tooLong
  else t.follow (t.start p) p.parts

/-- What stands at a path, if anything does. Of a path that is too long this cannot be said. -/
def find (t : Tree) (p : Path) : Except Misfit (Option Node) :=
  match t.placeOf p with
  | .ok place => .ok (t.at? place)
  | .error .tooLong => .error .fileName
  | .error _ => .ok none

/-- Does something stand at the path? -/
def has (t : Tree) (p : Path) : Except Misfit Bool := (t.find p).map Option.isSome

/-- Is the path a file? -/
def isFile (t : Tree) (p : Path) : Except Misfit Bool :=
  (t.find p).map fun
    | some (.file _) => true
    | _ => false

/-- Is the path a directory? -/
def isDirectory (t : Tree) (p : Path) : Bool :=
  match t.placeOf p with
  | .ok place => t.isDirectoryAt place
  | .error _ => false

/-- The tree with a file at a place. -/
def setAt (t : Tree) (place : List String) (content : Content) : Tree :=
  let nodes :=
    if t.nodes.any (·.1 = place) then
      t.nodes.map fun n => if n.1 = place then (place, .file content) else n
    else t.nodes ++ [(place, .file content)]
  { t with nodes := nodes }

/-- Writes a text to a file. Its directory must be there. -/
def write (t : Tree) (p : Path) (s : String) : Except Obstacle Tree :=
  match t.placeOf p with
  | .error o => .error o
  | .ok place => if t.isDirectoryAt place then .error .directory else .ok (t.setAt place (.text s))

/-- The tree with a file at a path, and with all directories above it. -/
def add (t : Tree) (p : Path) (content : Content) : Tree :=
  t.setAt (t.start p ++ p.parts) content

/-- The tree with a directory at a place, unless something stands there. -/
def setDirectoryAt (t : Tree) (place : List String) : Tree :=
  if (t.at? place).isSome then t else { t with nodes := t.nodes ++ [(place, .directory)] }

/-- The tree with a directory and all directories above it. -/
def makeDirectory (t : Tree) (p : Path) : Tree := t.setDirectoryAt (t.start p ++ p.parts)

/-- The tree with a new directory; the one above it must be there. -/
def createDirectory (t : Tree) (p : Path) : Except Obstacle Tree :=
  match t.placeOf p with
  | .error o => .error o
  | .ok place =>
    if (t.at? place).isSome then .error .taken else .ok (t.setDirectoryAt place)

/-- The tree with a directory at a path, a new one unless there is one; the one above it must be
there. -/
def ensureDirectory (t : Tree) (p : Path) : Except Obstacle Tree :=
  match t.createDirectory p with
  | .error o => if t.isDirectory p then .ok t else .error o
  | made => made

/-- The tree with a directory at a path that is given by its last part and those before it, and
with the directories above it that are missing. -/
def ensureAlong (t : Tree) (root : String) : List String → Except Obstacle Tree
  | [] => t.ensureDirectory ⟨root, []⟩
  | last :: before =>
    let p : Path := ⟨root, (last :: before).reverse⟩
    match t.ensureDirectory p with
    | .error .missing =>
      match t.ensureAlong root before with
      | .error o => .error o
      | .ok t => t.ensureDirectory p
    | made => made

/-- The tree with a directory at a path, and with the directories above it that are missing. -/
def ensureDirectories (t : Tree) (p : Path) : Except Obstacle Tree :=
  t.ensureAlong p.root p.parts.reverse

/-- The place of a file that text can be added to, and the tree with an empty one unless there is
one. -/
def openFile (t : Tree) (p : Path) : Except Obstacle (List String × Tree) :=
  match t.placeOf p with
  | .error o => .error o
  | .ok place =>
    match t.at? place with
    | some .directory => .error .directory
    | some (.file _) => .ok (place, t)
    | none => .ok (place, t.setAt place (.text ""))

/-- The place of a file to be read, and what it holds. -/
def readFile (t : Tree) (p : Path) : Except Obstacle (List String × Content) :=
  match t.placeOf p with
  | .error o => .error o
  | .ok place =>
    match t.at? place with
    | some .directory => .error .directory
    | some (.file content) => .ok (place, content)
    | none => .error .missing

/-- The text of a file, its line ends unified. -/
def readText (t : Tree) (p : Path) : Except ReadFault String :=
  match t.readFile p with
  | .error .directory => .error .directory
  | .error _ => .error .missing
  | .ok (_, .text s) => .ok (.ofList (Text.unifyNewlines s.toList))
  | .ok (_, .bytes bs) =>
    match Text.decode bs with
    | .ok cs => .ok (.ofList (Text.unifyNewlines cs))
    | .error f => .error (.undecodable f)

/-- The path of a place from the working directory, if the place is below it. -/
def textOf? (t : Tree) (place : List String) : Option String :=
  if t.home.isPrefixOf place then some ("/".intercalate (place.drop t.home.length)) else none

/-- The text files below the working directory that a tree has and another one has not, by path in
ascending order. -/
def added (before after : Tree) : List (String × String) :=
  let new := after.nodes.filterMap fun n =>
    match n.2 with
    | .file (.text s) =>
      if before.nodes.any (·.1 = n.1) then none else (after.textOf? n.1).map (·, s)
    | _ => none
  (ascendingTexts (new.map (·.1))).map fun path => (path, Entries.getD new path "")

end Tree

/-- What the system says of a directory that is used as a file. -/
def isDirectoryText (p : Path) : String := "[Errno 21] Is a directory: " ++ Text.quoted p.text

/-- What the system says of a file that is not there. -/
def noSuchFileText (p : Path) : String :=
  "[Errno 2] No such file or directory: " ++ Text.quoted p.text

/-- What the decoder says of bytes that are no text. -/
def undecodableText (f : Text.Utf8Fault) : String :=
  "'utf-8' codec can't decode " ++
    (if f.count = 1 then
      "byte 0x" ++ .ofList (Text.hexDigits 2 f.first.toNat) ++ s!" in position {f.position}"
    else s!"bytes in position {f.position}-{f.position + f.count - 1}") ++
    ": " ++ f.reason.message

end Files
end ClassModel
