import BeanContainer.Dictionary
import BeanContainer.Json.Encodable
import BeanContainer.Json.Writer
/-!
# Annotations

An annotation is attached to a type or to one of its members. Its name says of which kind it is, and
its values are free-form.
-/

namespace BeanContainer

/-- A named set of values attached to an element of a type. -/
structure Annotation where
  name : String
  values : Dictionary String Json := ∅
  deriving BEq, Inhabited

namespace Annotation

/-- Set a value that may have no JSON form. -/
def set (a : Annotation) (key : String) (v : Encodable) : Except EncodeError Annotation :=
  v.encode.map fun j => { a with values := a.values.insert key j }

def diagnostic (a : Annotation) : String :=
  Text.record "Annotation"
    [("name", Text.quote a.name),
     ("values", Text.mapping (a.values.toList.map fun e => (Text.quote e.1, e.2.diagnostic)))]

end Annotation

/-- The element of a type that carries annotations. -/
inductive Target where
  | type
  | member (name : String)
  deriving DecidableEq, Inhabited

namespace Target

/-- The name of the member, if the element is one. -/
def member? : Target → Option String
  | .type => none
  | .member name => some name

theorem member?_injective {s t : Target} (h : s.member? = t.member?) : s = t := by
  cases s <;> cases t <;> simp_all [member?]

/-- The type comes first, then its members by name. -/
instance : Ord Target := ⟨compareOn member?⟩

instance : Std.TransOrd Target := inferInstanceAs (Std.TransCmp (compareOn member?))

instance : Std.LawfulEqOrd Target where
  eq_of_compare h := member?_injective (Std.LawfulEqOrd.eq_of_compare h)

def diagnostic : Target → String
  | .type => "Type"
  | .member name => Text.applied "Member" (Text.quote name)

end Target

end BeanContainer
