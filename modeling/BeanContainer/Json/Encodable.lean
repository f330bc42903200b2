import BeanContainer.Json.Basic
/-!
# Values that may have a JSON form

Not every value of a program can be written as JSON. An `Encodable` is a value on its way there, and
`Encodable.encode` gives its JSON form or the reason why it has none.
-/

namespace BeanContainer

/-- Why a value has no JSON form. -/
inductive EncodeError where
  | keyNotText
  /-- A number is beyond the range of integers. -/
  | numberOutOfRange
  deriving DecidableEq, Repr

def EncodeError.message : EncodeError → String
  | .keyNotText => "key must be a string"
  | .numberOutOfRange => "number out of range"

inductive MapKey where
  | text (s : String)
  | composite (parts : List Json)

/-- A value of a program. -/
inductive Encodable where
  | json (v : Json)
  | natural (n : Nat)
  /-- A floating point number, `none` standing for those that are not finite. -/
  | real (x : Option Binary64)
  | mapping (entries : List (MapKey × Json))

namespace Encodable

instance : Coe Json Encodable := ⟨.json⟩

/-- The entries of a map whose keys are all strings. -/
def textEntries : List (MapKey × Json) → Except EncodeError (List (String × Json))
  | [] => .ok []
  | (.text s, v) :: es => (textEntries es).map ((s, v) :: ·)
  | (.composite _, _) :: _ => .error .keyNotText

/-- The JSON form of a value. A number that is not finite becomes `null`. -/
def encode : Encodable → Except EncodeError Json
  | .json v => .ok v
  | .natural n => if (n : Int) ≤ Json.maxInteger then .ok (.integer n) else .error .numberOutOfRange
  | .real (some x) => .ok (.real x)
  | .real none => .ok .null
  | .mapping entries => (textEntries entries).map Json.ofFields

@[simp] theorem encode_json (v : Json) : (json v).encode = .ok v := rfl

end Encodable

end BeanContainer
