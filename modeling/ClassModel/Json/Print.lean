import ClassModel.Json.Basic
import ClassModel.Number.Shortest
import ClassModel.Text.Escape

/-!
# `Json.Print` — values as text

`display` is the text of a value inside a message or a generated file: a text stands as it is, a
text inside a list or an object stands between quotes. `literal` is the JSON text of a value in
ASCII characters. Both write a number with a point in the fewest digits that read back,
positionally from a ten-thousandth up to below ten to the sixteenth.
-/

set_option autoImplicit false

namespace ClassModel
namespace Json

/-- The digits of a whole number without the zeros at its end, and how many those were. -/
def stripZeros : Nat → Nat → Nat × Nat
  | 0, n => (n, 0)
  | fuel + 1, n =>
    if n % 10 = 0 ∧ n ≠ 0 then
      let (m, zeros) := stripZeros fuel (n / 10)
      (m, zeros + 1)
    else (n, 0)

/-- Zeros in a row. -/
def zeros (n : Nat) : String := .ofList (List.replicate n '0')

/-- A decimal in digits. With the point after `point` digits: positional when that is more than
minus four and at most sixteen, else one digit before the point and an exponent of two digits or
more. -/
def decimalText (d : Number.Decimal) : String :=
  let (m, dropped) := stripZeros 400 d.digits
  let ds := toString m
  let point : Int := ds.length + d.exponent + dropped
  if -4 < point ∧ point ≤ 16 then
    if point ≤ 0 then "0." ++ zeros (-point).toNat ++ ds
    else if (ds.length : Int) ≤ point then ds ++ zeros (point - ds.length).toNat ++ ".0"
    else .ofList (ds.toList.take point.toNat) ++ "." ++ .ofList (ds.toList.drop point.toNat)
  else
    let e := point - 1
    let size := toString e.natAbs
    .ofList (ds.toList.take 1) ++
      (if ds.length = 1 then "" else "." ++ .ofList (ds.toList.drop 1)) ++
      "e" ++ (if e < 0 then "-" else "+") ++ (if size.length = 1 then "0" else "") ++ size

/-- A finite number with a point. -/
def finiteText (negative : Bool) (m : Nat) (e : Int) : String :=
  (if negative then "-" else "") ++
    if m = 0 then "0.0" else decimalText (Number.Shortest.decimal m e)

/-- A number with a point, as messages show it. -/
def floatText : Number.Binary64 → String
  | .nan => "nan"
  | .infinite false => "inf"
  | .infinite true => "-inf"
  | .finite negative m e => finiteText negative m e

/-- A number with a point, as JSON shows it. -/
def floatLiteral : Number.Binary64 → String
  | .nan => "NaN"
  | .infinite false => "Infinity"
  | .infinite true => "-Infinity"
  | .finite negative m e => finiteText negative m e

mutual

/-- The text of a value inside a list or an object, a text between quotes. -/
def inner : Json → String
  | .null => "None"
  | .bool b => if b then "True" else "False"
  | .int n => toString n
  | .float x => floatText x
  | .str s => Text.quoted s
  | .arr items => "[" ++ ", ".intercalate (innerItems items) ++ "]"
  | .obj entries => "\x7b" ++ ", ".intercalate (innerEntries entries) ++ "\x7d"

/-- The texts of the items of a list. -/
def innerItems : List Json → List String
  | [] => []
  | j :: rest => inner j :: innerItems rest

/-- The texts of the entries of an object. -/
def innerEntries : List (String × Json) → List String
  | [] => []
  | (k, j) :: rest => (Text.quoted k ++ ": " ++ inner j) :: innerEntries rest

end

/-- The text of a value inside a message or a generated file. -/
def display : Json → String
  | .str s => s
  | j => inner j

mutual

/-- The JSON text of a value, in ASCII characters. -/
def literal : Json → String
  | .null => "null"
  | .bool b => if b then "true" else "false"
  | .int n => toString n
  | .float x => floatLiteral x
  | .str s => Text.asciiLiteral s
  | .arr items => "[" ++ ", ".intercalate (literalItems items) ++ "]"
  | .obj entries => "\x7b" ++ ", ".intercalate (literalEntries entries) ++ "\x7d"

/-- The JSON texts of the items of a list. -/
def literalItems : List Json → List String
  | [] => []
  | j :: rest => literal j :: literalItems rest

/-- The JSON texts of the entries of an object. -/
def literalEntries : List (String × Json) → List String
  | [] => []
  | (k, j) :: rest => (Text.asciiLiteral k ++ ": " ++ literal j) :: literalEntries rest

end

@[simp] theorem display_str (s : String) : display (.str s) = s := rfl

@[simp] theorem literal_str (s : String) : literal (.str s) = Text.asciiLiteral s := by
  simp [literal]

end Json
end ClassModel
