import ClassModel.Schema.Fault

/-!
# `Target.EnumTable` — the enumerations of one file

A file declares each enumeration once. Fields add theirs one after another; a name that is taken
by other literals is a fault, and the enumerations before it stay in the table.
-/

set_option autoImplicit false

namespace ClassModel

/-- Enumerations by their names, in the order in which they were added. -/
abbrev EnumTable := Entries EnumClass

namespace EnumTable

/-- Adds the enumeration of a field, if it has one. -/
def add (t : EnumTable) (f : ResolvedField) : Except SchemaFault EnumTable :=
  match f.enum with
  | none => .ok t
  | some e =>
    match t.get? e.name with
    | none => .ok (t ++ [(e.name, e)])
    | some taken => if taken = e then .ok t else .error (.conflictingEnum f.name taken e)

/-- Adds the enumerations of fields up to the first fault; the table holds what came before it. -/
def collect (t : EnumTable) : List ResolvedField → EnumTable × Option SchemaFault
  | [] => (t, none)
  | f :: rest =>
    match t.add f with
    | .error e => (t, some e)
    | .ok t => t.collect rest

/-- The table with the enumerations of fields, or the first fault. -/
def addAll (t : EnumTable) (fs : List ResolvedField) : Except SchemaFault EnumTable :=
  match t.collect fs with
  | (t, none) => .ok t
  | (_, some e) => .error e

/-- The enumerations of a table, in order. -/
def classes (t : EnumTable) : List EnumClass := t.map (·.2)

end EnumTable
end ClassModel
