import BeanContainer.Json.Basic
import BeanContainer.Number.Shortest
import BeanContainer.Text.Quoted
import BeanContainer.Text.Diagnostic
/-!
# Writing JSON

`Json.compact` writes a value without blanks. Floating point numbers are written with their shortest
digits: positional with at least one digit after the point from `1e-5` up to, but not including,
`1e16`, and with an exponent outside of that range.
-/

namespace BeanContainer

namespace Decimal

def digitText (d : Decimal) : String := toString d.digits

/-- The power of ten of the first digit. -/
def leadingExponent (d : Decimal) : Int := d.exponent + d.digitText.length - 1

/-- Whether a decimal is written without an exponent. -/
def isPositional (d : Decimal) : Bool :=
  d.digits == 0 || (-5 ≤ d.leadingExponent && d.leadingExponent < 16)

def zeros (n : Nat) : String := String.ofList (List.replicate n '0')

/-- A decimal with a point and no exponent. -/
def positional (d : Decimal) : String :=
  let digits := d.digitText
  if 0 ≤ d.exponent then digits ++ zeros d.exponent.toNat ++ ".0"
  else
    let places := (-d.exponent).toNat
    if places < digits.length then
      let whole := digits.length - places
      String.ofList (digits.toList.take whole) ++ "." ++ String.ofList (digits.toList.drop whole)
    else "0." ++ zeros (places - digits.length) ++ digits

/-- A decimal with one digit before the point and a signed exponent. -/
def scientific (d : Decimal) : String :=
  let digits := d.digitText.toList
  let fraction := String.ofList (digits.drop 1)
  let point := if fraction.isEmpty then "" else "."
  let sign := if d.leadingExponent < 0 then "-" else "+"
  String.ofList (digits.take 1) ++ point ++ fraction ++ "e" ++ sign ++
    toString d.leadingExponent.natAbs

/-- A decimal in the shorter of the two notations for its magnitude. -/
def text (d : Decimal) : String := if d.isPositional then d.positional else d.scientific

end Decimal

/-- A floating point number by its shortest digits. -/
def Binary64.text (x : Binary64) : String :=
  (if x.negative then "-" else "") ++ (Decimal.shortest x).text

namespace Json

/-- How one character is written in a JSON string. -/
def escapeChar (c : Char) : String :=
  if c = '"' then "\\\""
  else if c = '\\' then "\\\\"
  else if c = '\x08' then "\\b"
  else if c = '\x0c' then "\\f"
  else if c = '\n' then "\\n"
  else if c = '\r' then "\\r"
  else if c = '\t' then "\\t"
  else if c.toNat < 0x20 then
    let code := Text.hexadecimal c.toNat
    "\\u" ++ Decimal.zeros (4 - code.length) ++ code
  else String.singleton c

def stringText (s : String) : String :=
  "\"" ++ String.join (s.toList.map escapeChar) ++ "\""

mutual

/-- A value as JSON text without blanks. -/
def compact : Json → String
  | .null => "null"
  | .bool b => Text.truth b
  | .integer n => toString n
  | .real x => x.text
  | .string s => stringText s
  | .array items => "[" ++ ",".intercalate (compactItems items) ++ "]"
  | .object fields => "\x7b" ++ ",".intercalate (compactFields fields) ++ "\x7d"

def compactItems : List Json → List String
  | [] => []
  | v :: vs => compact v :: compactItems vs

def compactFields : List (String × Json) → List String
  | [] => []
  | (name, v) :: fs => (stringText name ++ ":" ++ compact v) :: compactFields fs

end

mutual

def diagnostic : Json → String
  | .null => "Null"
  | .bool b => Text.applied "Bool" (Text.truth b)
  | .integer n => Text.applied "Number" (toString n)
  | .real x => Text.applied "Number" x.text
  | .string s => Text.applied "String" (Text.quote s)
  | .array items => "Array " ++ Text.listing (diagnosticItems items)
  | .object fields => "Object " ++ Text.mapping (diagnosticFields fields)

def diagnosticItems : List Json → List String
  | [] => []
  | v :: vs => diagnostic v :: diagnosticItems vs

def diagnosticFields : List (String × Json) → List (String × String)
  | [] => []
  | (name, v) :: fs => (Text.quote name, diagnostic v) :: diagnosticFields fs

end

end Json

end BeanContainer
