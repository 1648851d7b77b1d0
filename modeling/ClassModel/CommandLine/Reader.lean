import ClassModel.CommandLine.Arguments
import ClassModel.Text.Digit

/-!
# `CommandLine.Reader` — reading a command line

A word that starts with a hyphen names a flag: in full, by a start that no other flag has, or, for
flags of one letter, several in one word. A value stands in the next word, after an equals sign, or
right after a letter. How letters are read that stand in one word depends on the release of the
reader (`Joining`). A lone double hyphen ends the flags. The first other word is the file; there is
room for one. A file and a URL exclude each other.

Names are looked up before anything is read, so a start of several names is the first fault.
-/

set_option autoImplicit false

namespace ClassModel
namespace CommandLine

/-- How letters that stand in one word are read. -/
inductive Joining
  /-- An equals sign after the second letter or a later one is part of the value, and after a
  switch it is skipped. A letter that is no flag is a fault of the switch before it. -/
  | loose
  /-- An equals sign after any letter stands before its value, which a switch does not take. What
  starts with a letter that is no flag is an unknown word. -/
  | strict
  deriving DecidableEq, Repr

/-- What follows the name of a flag in the same word. -/
inductive Rest
  | nothing
  /-- Text right after a letter. -/
  | glued (s : String)
  /-- Text after an equals sign. -/
  | assigned (s : String)
  deriving DecidableEq, Repr

/-- A word of a command line. -/
inductive Word
  | plain (s : String)
  /-- The double hyphen, after which all words are plain. -/
  | separator
  /-- A flag by one of its names, and what follows the name. -/
  | flag (f : Flag) (rest : Rest)
  /-- A word that looks like a flag and is none. -/
  | unknown (s : String)
  deriving DecidableEq, Repr

/-- The parts of a text before and after the first equals sign. -/
def splitEquals (s : String) : Option (String × String) :=
  let cs := s.toList
  match cs.dropWhile (· ≠ '=') with
  | _ :: value => some (.ofList (cs.takeWhile (· ≠ '=')), .ofList value)
  | [] => none

/-- The names that a word is a start of, with what follows in the word. A word with one hyphen may
also be a letter and its value. -/
def candidates (s : String) : List (Flag × String × Rest) :=
  match s.toList with
  | '-' :: '-' :: _ =>
    let (start, rest) := match splitEquals s with
      | some (start, value) => (start, Rest.assigned value)
      | none => (s, .nothing)
    (Flag.named.filter fun n => start.toList.isPrefixOf n.1.toList).map fun n => (n.2, n.1, rest)
  | '-' :: letter :: value =>
    let short : String := .ofList ['-', letter]
    Flag.named.filterMap fun n =>
      if n.1 = short then some (n.2, n.1, .glued (.ofList value))
      else if s.toList.isPrefixOf n.1.toList then some (n.2, n.1, .nothing)
      else none
  | _ => []

/-- The text without a line feed at its end. -/
def withoutLineFeed (cs : List Char) : List Char :=
  match cs.reverse with
  | '\n' :: rest => rest.reverse
  | _ => cs

/-- Is the text a negative number, in digits of any script? A line feed may follow it. -/
def isNegativeNumber (s : String) : Bool :=
  match s.toList with
  | '-' :: rest =>
    let number := withoutLineFeed rest
    let whole := number.takeWhile Text.isDecimal
    match number.drop whole.length with
    | [] => !whole.isEmpty
    | '.' :: decimals => !decimals.isEmpty && decimals.all Text.isDecimal
    | _ => false
  | _ => false

/-- What an equals sign and a value after a name are: for a letter they can say the same as the
value right after it. -/
def afterEquals (j : Joining) (name value : String) : Rest :=
  if j = .loose ∧ name.length = 2 then .glued value else .assigned value

/-- Reads a word that stands before any double hyphen. -/
def readWord (j : Joining) (s : String) : Except UsageFault Word :=
  match s.toList with
  | '-' :: _ :: _ =>
    match Flag.ofName? s with
    | some f => .ok (.flag f .nothing)
    | none =>
      let whole := splitEquals s >>= fun (name, value) =>
        (Flag.ofName? name).map fun f => Word.flag f (afterEquals j name value)
      match whole, candidates s with
      | some w, _ => .ok w
      | none, [(f, _, rest)] => .ok (.flag f rest)
      | none, [] =>
        .ok (if isNegativeNumber s || s.toList.contains ' ' then .plain s else .unknown s)
      | none, several => .error (.ambiguous s (several.map (·.2.1)))
  | _ => .ok (.plain s)

/-- Reads the words of a command line. -/
def readWords (j : Joining) : List String → Except UsageFault (List Word)
  | [] => .ok []
  | s :: rest =>
    if s = "--" then .ok (.separator :: rest.map .plain)
    else
      match readWord j s with
      | .error e => .error e
      | .ok w => (readWords j rest).map (w :: ·)

/-- How a word ends, after the switches in it. -/
inductive Ending
  | nothing
  /-- A flag whose value stands in the next word. -/
  | awaits (f : Flag)
  /-- A flag and its value. -/
  | value (f : Flag) (s : String)
  /-- A letter that is no flag, and what follows it, as a word of its own. -/
  | stray (s : String)
  deriving DecidableEq, Repr

/-- What one word asks for: switches, and an ending. -/
structure Asked where
  switches : List Flag
  ending : Ending
  deriving DecidableEq, Repr

/-- A flag without text after it in its word. -/
def askedAlone (f : Flag) : Asked := if f.takesValue then ⟨[], .awaits f⟩ else ⟨[f], .nothing⟩

/-- A flag with text after an equals sign. -/
def askedAssigned (f : Flag) (value : List Char) : Except UsageFault Asked :=
  if f.takesValue then .ok ⟨[], .value f (.ofList value)⟩
  else .error (.surplusValue f (.ofList value))

/-- A letter of a word, and what the rest of the word asks for. -/
def Asked.after (f : Flag) (a : Asked) : Asked := { a with switches := f :: a.switches }

/-- A letter with text right after it: its value, or, after a switch, more letters. -/
def askedGlued (j : Joining) (f : Flag) : List Char → Except UsageFault Asked
  | [] => if f.takesValue then .ok ⟨[], .value f ""⟩ else .error (.surplusValue f "")
  | c :: rest =>
    if f.takesValue then .ok ⟨[], .value f (.ofList (c :: rest))⟩
    else
      match Flag.ofName? (.ofList ['-', c]), rest with
      | none, _ =>
        if j = .loose ∨ c = '-' then .error (.surplusValue f (.ofList (c :: rest)))
        else .ok ⟨[f], .stray (.ofList ('-' :: c :: rest))⟩
      | some g, [] => .ok ((askedAlone g).after f)
      | some g, d :: rest =>
        if j = .strict ∧ d = '=' then (askedAssigned g rest).map (·.after f)
        else (askedGlued j g (d :: rest)).map (·.after f)

/-- What a flag asks for, with what follows it in its word. -/
def asked (j : Joining) (f : Flag) : Rest → Except UsageFault Asked
  | .nothing => .ok (askedAlone f)
  | .glued s => askedGlued j f s.toList
  | .assigned s => askedAssigned f s.toList

/-- How far a command line is read. -/
structure Reading where
  arguments : Arguments := {}
  /-- The place of the file is taken. -/
  hasFile : Bool := false
  help : Bool := false
  surplus : List String := []
  deriving Repr

namespace Reading

/-- Takes a word as the file, or as surplus if there is one already. -/
def takeFile (r : Reading) (s : String) : Except UsageFault Reading :=
  if r.hasFile then .ok { r with surplus := r.surplus ++ [s] }
  else if r.arguments.url.isSome then .error (.conflict "file" Flag.url.label)
  else .ok { r with hasFile := true, arguments := { r.arguments with file := some s } }

/-- Takes words as surplus. -/
def takeSurplus (r : Reading) (words : List Word) : Reading :=
  { r with surplus := r.surplus ++ words.filterMap fun
      | .plain s => some s
      | _ => none }

/-- Sets the value of a flag. -/
def takeValue (r : Reading) (f : Flag) (value : String) : Except UsageFault Reading :=
  if f = .url && r.arguments.file.isSome then .error (.conflict Flag.url.label "file")
  else .ok { r with arguments := r.arguments.set f value }

/-- Sets flags without values. -/
def takeSwitches (r : Reading) (fs : List Flag) : Reading :=
  { r with
    help := r.help || fs.contains .help
    arguments := fs.foldl (fun a f => a.switch f) r.arguments }

/-- Takes the end of a word that has no value after it. -/
def takeEnding (r : Reading) : Ending → Except UsageFault Reading
  | .nothing => .ok r
  | .awaits f => .error (.needsValue f)
  | .value f v => r.takeValue f v
  | .stray s => .ok { r with surplus := r.surplus ++ [s] }

/-- Reads the words one after the other, up to a call for help. -/
def take (j : Joining) (r : Reading) : List Word → Except UsageFault Reading
  | [] => .ok r
  | .unknown s :: rest => take j { r with surplus := r.surplus ++ [s] } rest
  | .plain s :: .separator :: rest =>
    if r.hasFile then .ok ({ r with surplus := r.surplus ++ [s, "--"] }.takeSurplus rest)
    else
      match r.takeFile s with
      | .error e => .error e
      | .ok r => .ok (r.takeSurplus rest)
  | .plain s :: rest =>
    match r.takeFile s with
    | .error e => .error e
    | .ok r => r.take j rest
  | .separator :: rest =>
    if r.hasFile then .ok ({ r with surplus := r.surplus ++ ["--"] }.takeSurplus rest)
    else
      match rest with
      | .plain s :: rest =>
        match r.takeFile s with
        | .error e => .error e
        | .ok r => .ok (r.takeSurplus rest)
      | _ => .ok r
  | .flag f text :: rest =>
    match asked j f text with
    | .error e => .error e
    | .ok a =>
      let r := r.takeSwitches a.switches
      match a.ending, rest with
      | .awaits g, .plain v :: rest =>
        if r.help then .ok r
        else
          match r.takeValue g v with
          | .error e => .error e
          | .ok r => r.take j rest
      | ending, rest =>
        match r.takeEnding ending with
        | .error e => .error e
        | .ok taken => if r.help then .ok r else taken.take j rest

end Reading

/-- What a command line asks for. -/
inductive Request
  | help
  | run (a : Arguments)
  deriving DecidableEq, Repr

/-- Reads a command line. -/
def read (j : Joining) (words : List String) : Except UsageFault Request :=
  match readWords j words with
  | .error e => .error e
  | .ok ws =>
    match Reading.take j {} ws with
    | .error e => .error e
    | .ok r =>
      if r.help then .ok .help
      else if r.surplus.isEmpty then .ok (.run r.arguments)
      else .error (.unknown r.surplus)

end CommandLine
end ClassModel
