/-!
# Diagnostic text

The form in which values are shown for diagnosis: records with named fields, applied constructors,
lists, sets and maps, all on one line. A type's own diagnostic text is built from these.
-/

namespace BeanContainer.Text

/-- Items with a comma and a blank between them. -/
def commaSeparated (items : List String) : String := ", ".intercalate items

/-- A record with its fields; `note` stands after the last one. -/
def recordWith (note : String) (name : String) (fields : List (String × String)) : String :=
  name ++ " \x7b " ++ commaSeparated (fields.map fun f => f.1 ++ ": " ++ f.2) ++ note ++ " \x7d"

/-- A record all of whose fields are shown. -/
def record (name : String) (fields : List (String × String)) : String := recordWith "" name fields

/-- A record that has more fields than are shown. -/
def openRecord (name : String) (fields : List (String × String)) : String :=
  recordWith ", .." name fields

/-- A constructor with one argument. -/
def applied (name argument : String) : String := name ++ "(" ++ argument ++ ")"

/-- A list. -/
def listing (items : List String) : String := "[" ++ commaSeparated items ++ "]"

/-- A set. -/
def setOf (items : List String) : String := "\x7b" ++ commaSeparated items ++ "\x7d"

/-- A map in the order of its entries. -/
def mapping (entries : List (String × String)) : String :=
  setOf (entries.map fun e => e.1 ++ ": " ++ e.2)

/-- An optional value. -/
def optional {α : Type} (text : α → String) : Option α → String
  | none => "None"
  | some a => applied "Some" (text a)

def truth (b : Bool) : String := if b then "true" else "false"

end BeanContainer.Text
