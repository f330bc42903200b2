import BeanContainer.Dictionary
import BeanContainer.Number.Binary64
/-!
# JSON values

Annotation values and properties are free-form JSON. A number is either an integer or a binary
floating point number, and the two are never equal. The fields of an object are listed in ascending
order of their names, each name once; `Json.ofFields` builds such an object from any list of fields.
-/

namespace BeanContainer

/-- A free-form value. -/
inductive Json where
  | null
  | bool (b : Bool)
  | integer (n : Int)
  | real (x : Binary64)
  | string (s : String)
  | array (items : List Json)
  | object (fields : List (String × Json))
  deriving Inhabited

namespace Json

/-- An object with these fields; of two with one name the later wins. -/
def ofFields (fields : List (String × Json)) : Json := .object (Dictionary.ofList fields).toList

def minInteger : Int := -(Nat.pow 2 63 : Nat)

def maxInteger : Int := (Nat.pow 2 64 : Nat) - 1

mutual

/-- Equality of contents; floating point numbers are compared as numbers, so the two zeros agree. -/
def same : Json → Json → Bool
  | .null, .null => true
  | .bool a, .bool b => a == b
  | .integer a, .integer b => a == b
  | .real a, .real b => a == b
  | .string a, .string b => a == b
  | .array as, .array bs => sameItems as bs
  | .object as, .object bs => sameFields as bs
  | _, _ => false

/-- Equality of the items of two arrays, one by one. -/
def sameItems : List Json → List Json → Bool
  | [], [] => true
  | a :: as, b :: bs => same a b && sameItems as bs
  | _, _ => false

/-- Equality of the fields of two objects, names and values. -/
def sameFields : List (String × Json) → List (String × Json) → Bool
  | [], [] => true
  | (j, a) :: as, (k, b) :: bs => j == k && same a b && sameFields as bs
  | _, _ => false

end

instance : BEq Json := ⟨same⟩

mutual

theorem same_self : (j : Json) → same j j = true
  | .null => rfl
  | .bool _ | .integer _ | .real _ | .string _ => by simp [same]
  | .array items => by rw [same, sameItems_self items]
  | .object fields => by rw [same, sameFields_self fields]

theorem sameItems_self : (js : List Json) → sameItems js js = true
  | [] => rfl
  | j :: js => by rw [sameItems, same_self j, sameItems_self js, Bool.and_self]

theorem sameFields_self : (fs : List (String × Json)) → sameFields fs fs = true
  | [] => rfl
  | (k, j) :: fs => by
    rw [sameFields, same_self j, sameFields_self fs, beq_self_eq_true, Bool.and_self, Bool.and_self]

end

instance : ReflBEq Json := ⟨same_self _⟩

def field? (name : String) : Json → Option Json
  | .object fields => Dictionary.lookup name fields
  | _ => none

end Json

end BeanContainer
