import BeanContainer.Annotation.Edit
import BeanContainer.Class.Basic
/-!
# Overrides of annotated types

An override edits the annotations of one class. Overrides of the same class are merged into one: the
edits are replayed in the order in which the overrides were given (`TypeOverride.merge`).
-/

namespace BeanContainer

/-- Edits of the annotations of one class. -/
structure TypeOverride where
  target : ClassRef
  edits : List Edit := []
  deriving BEq, Inhabited

namespace TypeOverride

def edit (o : TypeOverride) (edits : List Edit) : TypeOverride :=
  { o with edits := o.edits ++ edits }

/-- The annotations that result from the edits. -/
def metadata (o : TypeOverride) : TypeMetadata := ({} : TypeMetadata).replay o.edits

def hasEmptyMember (o : TypeOverride) : Bool := o.edits.any Edit.hasEmptyMember

/-- Two overrides of one class as one: first the edits of the older, then those of the newer. -/
def append (older newer : TypeOverride) : TypeOverride := older.edit newer.edits

/-- One override per class, in the order in which the classes were first overridden. -/
def merge (os : List TypeOverride) : List TypeOverride :=
  Keyed.gather (fun o => o.target.id) append os

def diagnostic (o : TypeOverride) : String :=
  Text.record "AnnotatedTypeOverride"
    [("class", o.target.diagnostic), ("edits", Text.listing (o.edits.map Edit.diagnostic))]

end TypeOverride

end BeanContainer
