import ClassModel.Entries
import ClassModel.Number.Binary64

/-!
# `Json` — values of a document

Documents, settings and mapping files are JSON. An object keeps the order of its keys, a whole
number is told from one with a point, and a number with a point is a 64-bit binary value. A place
that expects a text or a number may hold any value: such a value is carried along and is refused
only where something is asked of it that it cannot give.
-/

set_option autoImplicit false

namespace ClassModel

/-- A JSON value. -/
inductive Json
  | null
  | bool (b : Bool)
  | int (n : Int)
  | float (x : Number.Binary64)
  | str (s : String)
  | arr (items : List Json)
  | obj (entries : List (String × Json))
  deriving Repr

namespace Json

instance : Inhabited Json := ⟨.null⟩

/-- The kind of a value, as messages name it. -/
def kindName : Json → String
  | .null => "NoneType"
  | .bool _ => "bool"
  | .int _ => "int"
  | .float _ => "float"
  | .str _ => "str"
  | .arr _ => "list"
  | .obj _ => "dict"

/-- Does the value count as set? Zero, the empty text, list and object, `false` and `null` do
not. -/
def isSet : Json → Bool
  | .null => false
  | .bool b => b
  | .int n => n != 0
  | .float x => !x.isZero
  | .str s => s != ""
  | .arr items => !items.isEmpty
  | .obj entries => !entries.isEmpty

/-- The text of a value that is a text. -/
def text? : Json → Option String
  | .str s => some s
  | _ => none

/-- The entries of a value that is an object; of a repeated key the last value counts. -/
def entries? : Json → Option (Entries Json)
  | .obj es => some (Entries.ofList es)
  | _ => none

/-- Can the value serve as a key? Lists and objects cannot. -/
def isKey : Json → Bool
  | .arr _ | .obj _ => false
  | _ => true

/-- The numeric value of a number or a truth value, as `m * 2 ^ e`; not-a-number has none. -/
def scaled? : Json → Option (Int × Int)
  | .bool b => some (if b then 1 else 0, 0)
  | .int n => some (n, 0)
  | .float (.finite negative m e) => some (if negative then -(m : Int) else m, e)
  | _ => none

/-- Does the value compare with numbers? Numbers and truth values do; not-a-number is neither less
nor greater than any number, nor equal to one. -/
def isComparable : Json → Bool
  | .bool _ | .int _ => true
  | .float x => x != .nan
  | _ => false

/-- The order of two numbers, truth values among them, if both compare. -/
def compareNumbers (a b : Json) : Option Ordering :=
  let rank : Json → Nat
    | .float (.infinite true) => 0
    | .float (.infinite false) => 2
    | _ => 1
  if a.isComparable && b.isComparable then
    some <|
      match compare (rank a) (rank b) with
      | .eq =>
        match a.scaled?, b.scaled? with
        | some (m, x), some (n, y) => Number.compareScaled m x n y
        | _, _ => .eq
      | o => o
  else none

/-- Is the value a number or a truth value? -/
def isNumber : Json → Bool
  | .bool _ | .int _ | .float _ => true
  | _ => false

/-- Are two keys the same key? Numbers are compared by their value; wherever a document says
not-a-number, it is read as one and the same object, which is the same key as itself. -/
def sameKey (a b : Json) : Bool :=
  match a, b with
  | .null, .null => true
  | .str s, .str t => s == t
  | .float .nan, .float .nan => true
  | a, b => compareNumbers a b == some .eq

end Json

/-- The value of a key of an object, if the value is an object with that key. -/
def Json.field? (j : Json) (key : String) : Option Json := j.entries? >>= (·.get? key)

end ClassModel
