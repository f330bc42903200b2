import BeanContainer.Json.Writer
/-!
# Typed reading of JSON values

A `Decoder α` reads a value of type `α` from JSON or says what it found instead of what it wanted.
Decoders of composite values read their parts in order, and the first part that fails decides the
error.
-/

namespace BeanContainer

/-- Why a value cannot be read as wanted. -/
inductive DecodeError where
  /-- A value of another kind stands in its place. -/
  | wrongType (got : Json) (wanted : String)
  | outOfRange (n : Int) (wanted : String)
  | notOneCharacter (s : String)
  | wrongLength (n : Nat) (wanted : String)
  | missingField (name : String)

namespace DecodeError

/-- How a value is named in a message. -/
def describe : Json → String
  | .null => "null"
  | .bool b => "boolean `" ++ Text.truth b ++ "`"
  | .integer n => "integer `" ++ toString n ++ "`"
  | .real x => "floating point `" ++ x.text ++ "`"
  | .string s => "string " ++ Text.quote s
  | .array _ => "sequence"
  | .object _ => "map"

def message : DecodeError → String
  | .wrongType got wanted => "invalid type: " ++ describe got ++ ", expected " ++ wanted
  | .outOfRange n wanted =>
    "invalid value: " ++ describe (.integer n) ++ ", expected " ++ wanted
  | .notOneCharacter s =>
    "invalid value: " ++ describe (.string s) ++ ", expected a character"
  | .wrongLength n wanted => "invalid length " ++ toString n ++ ", expected " ++ wanted
  | .missingField name => "missing field `" ++ name ++ "`"

end DecodeError

/-- A way to read a value from JSON. -/
abbrev Decoder (α : Type) := Json → Except DecodeError α

namespace Decoder

variable {α β : Type}

/-! ### Single values -/

def value : Decoder Json := .ok

/-- An integer from `low` to `high`. -/
def integer (name : String) (low high : Int) : Decoder Int
  | .integer n => if low ≤ n ∧ n ≤ high then .ok n else .error (.outOfRange n name)
  | v => .error (.wrongType v name)

def signed (bits : Nat) : Decoder Int :=
  integer ("i" ++ toString bits) (-(Nat.pow 2 (bits - 1) : Nat))
    ((Nat.pow 2 (bits - 1) : Nat) - 1)

def unsigned (bits : Nat) : Decoder Int :=
  integer ("u" ++ toString bits) 0 ((Nat.pow 2 bits : Nat) - 1)

/-- Any number; an integer is rounded to the nearest floating point number. -/
def real : Decoder Binary64
  | .real x => .ok x
  | .integer n =>
    match Binary64.ofInt? n with
    | some x => .ok x
    | none => .error (.outOfRange n "f64")
  | v => .error (.wrongType v "f64")

def bool : Decoder Bool
  | .bool b => .ok b
  | v => .error (.wrongType v "a boolean")

def string : Decoder String
  | .string s => .ok s
  | v => .error (.wrongType v "a string")

def character : Decoder Char
  | .string s =>
    match s.toList with
    | [c] => .ok c
    | _ => .error (.notOneCharacter s)
  | v => .error (.wrongType v "a character")

def unit : Decoder Unit
  | .null => .ok ()
  | v => .error (.wrongType v "unit")

/-! ### Composite values -/

def optional (inner : Decoder α) : Decoder (Option α)
  | .null => .ok none
  | v => (inner v).map some

def sequence (inner : Decoder α) : Decoder (List α)
  | .array items => items.mapM inner
  | v => .error (.wrongType v "a sequence")

def mapping (inner : Decoder α) : Decoder (List (String × α))
  | .object fields => fields.mapM fun f => (inner f.2).map (f.1, ·)
  | v => .error (.wrongType v "a map")

/-- Two values from the items of an array; `wanted` says what an array that is too short lacks. -/
def twoItems (wanted : String) (first : Decoder α) (second : Decoder β) (items : List Json) :
    Except DecodeError (α × β) :=
  match items with
  | [] => .error (.wrongLength 0 wanted)
  | [a] => do
    let _ ← first a
    .error (.wrongLength 1 wanted)
  | a :: b :: rest => do
    let x ← first a
    let y ← second b
    if rest.isEmpty then .ok (x, y)
    else .error (.wrongLength items.length "fewer elements in array")

def pair (first : Decoder α) (second : Decoder β) : Decoder (α × β)
  | .array items => twoItems "a tuple of size 2" first second items
  | v => .error (.wrongType v "a tuple of size 2")

/-- Read the fields that belong to a record of two fields, in the order of the object; other fields
are passed over. -/
def twoFields (first : String × Decoder α) (second : String × Decoder β) :
    List (String × Json) → Except DecodeError (Option α × Option β)
  | [] => .ok (none, none)
  | (name, v) :: fields =>
    if name = first.1 then do
      let x ← first.2 v
      (twoFields first second fields).map fun r => (some x, r.2)
    else if name = second.1 then do
      let y ← second.2 v
      (twoFields first second fields).map fun r => (r.1, some y)
    else twoFields first second fields

/-- A record of two named fields: an object that has both, or an array of their values in order. -/
def record (name : String) (first : String × Decoder α) (second : String × Decoder β) :
    Decoder (α × β)
  | .object fields => do
    match ← twoFields first second fields with
    | (some x, some y) => .ok (x, y)
    | (none, _) => .error (.missingField first.1)
    | (_, none) => .error (.missingField second.1)
  | .array items => twoItems ("struct " ++ name ++ " with 2 elements") first.2 second.2 items
  | v => .error (.wrongType v ("struct " ++ name))

end Decoder

end BeanContainer
