import BeanContainer.Discovery.Host
import BeanContainer.Keyed
/-!
# Class indexes

An index of registered classes answers scans at once. A class is listed once, at the place of its
first registration; it belongs to a bean archive as soon as one of its registrations says so.
-/

namespace BeanContainer

structure IndexedClass where
  reference : ClassRef
  archived : Bool
  deriving DecidableEq, Inhabited

namespace IndexedClass

/-- What makes an entry the entry of its class. -/
def id (e : IndexedClass) : ClassId := e.reference.id

/-- The entry of a class that is registered once more. -/
def combine (older newer : IndexedClass) : IndexedClass :=
  { older with archived := older.archived || newer.archived }

end IndexedClass

/-- Registered classes in the order of their first registration. -/
abbrev ClassIndex := List IndexedClass

namespace ClassIndex

def register (index : ClassIndex) (e : IndexedClass) : ClassIndex :=
  Keyed.put IndexedClass.id IndexedClass.combine e index

def ofRegistrations (es : List IndexedClass) : ClassIndex := es.foldl register []

/-- Whether an entry belongs to the result of a scan. -/
def matchesScan (loader : Loader) (scan : Scan) (e : IndexedClass) : Bool :=
  e.reference.loader == loader &&
    match scan with
    | .package request => request.contains e.reference
    | .archives => e.archived

def find (index : ClassIndex) (loader : Loader) (scan : Scan) : List ClassRef :=
  (index.filter (matchesScan loader scan)).map IndexedClass.reference

/-- The host that answers from the index. -/
def host (index : ClassIndex) (managed : Bool) : Host :=
  { managed, reply := fun loader scan => .after 0 (.ok (index.find loader scan)) }

end ClassIndex

end BeanContainer
