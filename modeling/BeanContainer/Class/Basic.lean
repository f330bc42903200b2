import BeanContainer.Text.Diagnostic
import BeanContainer.Text.Quoted
/-!
# Classes

A class is known by its name and the loader that owns it (`ClassId`). A reference to a class also
carries markers, which say what the class declares itself to be; they take no part in comparisons,
so two references with one `ClassId` are references to the same class.
-/

namespace BeanContainer

/-- The owner of a set of classes. Loaders are told apart by their serial number: two of them may
have one name. -/
structure Loader where
  serial : Nat
  name : String
  deriving DecidableEq, Inhabited

/-- The loader that classes belong to when no other one is given. -/
def Loader.system : Loader := ⟨0, "system"⟩

def Loader.diagnostic (closed : Bool) (l : Loader) : String :=
  Text.record "ClassLoader" [("name", Text.quote l.name), ("closed", Text.truth closed)]

/-- What makes a class the class it is. -/
structure ClassId where
  name : String
  loader : Loader
  deriving DecidableEq, Inhabited

/-! ### Markers -/

/-- The roles that a class declares to be fit for. -/
structure Markers where
  interceptor : Bool := false
  decorator : Bool := false
  alternative : Bool := false
  stereotype : Bool := false
  deriving DecidableEq, Inhabited

/-- One of the roles that a class may declare. -/
inductive Role where
  | interceptor
  | decorator
  | alternative
  | stereotype
  deriving DecidableEq, Repr

namespace Role

/-- Every role, in the order in which they are listed. -/
def all : List Role := [.interceptor, .decorator, .alternative, .stereotype]

def name : Role → String
  | .interceptor => "interceptor"
  | .decorator => "decorator"
  | .alternative => "alternative"
  | .stereotype => "stereotype"

/-- The role that a word stands for. -/
def ofName? (word : String) : Option Role := all.find? fun r => r.name == word

end Role

namespace Markers

def has (m : Markers) : Role → Bool
  | .interceptor => m.interceptor
  | .decorator => m.decorator
  | .alternative => m.alternative
  | .stereotype => m.stereotype

def declare (m : Markers) : Role → Markers
  | .interceptor => { m with interceptor := true }
  | .decorator => { m with decorator := true }
  | .alternative => { m with alternative := true }
  | .stereotype => { m with stereotype := true }

/-- The markers that declare exactly the given roles. -/
def ofRoles (roles : List Role) : Markers := roles.foldl declare {}

theorem has_declare (m : Markers) (r s : Role) : (m.declare r).has s = (r == s || m.has s) := by
  cases r <;> cases s <;> rfl

def diagnostic (m : Markers) : String :=
  Text.record "Markers" (Role.all.map fun r => (r.name, Text.truth (m.has r)))

end Markers

/-! ### References -/

/-- A reference to a class. -/
structure ClassRef where
  id : ClassId
  markers : Markers := {}
  deriving DecidableEq, Inhabited

namespace ClassRef

def name (c : ClassRef) : String := c.id.name

def loader (c : ClassRef) : Loader := c.id.loader

/-- References are equal when they refer to the same class, whatever their markers. -/
instance : BEq ClassRef := ⟨fun c d => decide (c.id = d.id)⟩

@[simp] theorem beq_iff {c d : ClassRef} : (c == d) = true ↔ c.id = d.id :=
  decide_eq_true_iff

instance : EquivBEq ClassRef where
  rfl := beq_iff.2 rfl
  symm h := beq_iff.2 (beq_iff.1 h).symm
  trans h h' := beq_iff.2 ((beq_iff.1 h).trans (beq_iff.1 h'))

def diagnostic (c : ClassRef) : String := c.name ++ "@" ++ c.loader.name

end ClassRef

end BeanContainer
