import BeanContainer.Class.Basic
/-!
# Packages

The name of a class is a path whose parts are joined by `::`. The package of a class is what stands
before the last separator, and a class at the root has the empty package. A `PackageRef` asks for
the classes of one package, with or without those of its sub-packages.
-/

namespace BeanContainer

namespace Package

def separator : List Char := [':', ':']

/-- What stands before the last separator of a name, if there is one. -/
def beforeLastSeparator : List Char → Option (List Char)
  | [] => none
  | c :: cs =>
    match beforeLastSeparator cs with
    | some front => some (c :: front)
    | none => if separator.isPrefixOf (c :: cs) then some [] else none

def ofName (name : String) : String := String.ofList ((beforeLastSeparator name.toList).getD [])

end Package

def ClassRef.package (c : ClassRef) : String := Package.ofName c.name

/-- A request for the classes of a package. -/
structure PackageRef where
  name : String
  /-- Whether the classes of sub-packages are asked for as well. -/
  recursive : Bool
  deriving DecidableEq, Inhabited

namespace PackageRef

def ofClass (c : ClassRef) (recursive : Bool) : PackageRef := ⟨c.package, recursive⟩

/-- Whether a package is the requested one or, for a recursive request, lies below it. Every package
lies below the root. -/
def covers (p : PackageRef) (package : String) : Bool :=
  package == p.name ||
    (p.recursive &&
      (p.name.isEmpty || (p.name.toList ++ Package.separator).isPrefixOf package.toList))

/-- Whether a class is among those asked for. -/
def contains (p : PackageRef) (c : ClassRef) : Bool := p.covers c.package

/-- Two requests for one package as one: it is recursive if either is. -/
def union (p q : PackageRef) : PackageRef := { p with recursive := p.recursive || q.recursive }

@[simp] theorem name_union (p q : PackageRef) : (p.union q).name = p.name := rfl

def diagnostic (p : PackageRef) : String :=
  Text.record "PackageRef" [("name", Text.quote p.name), ("recursive", Text.truth p.recursive)]

end PackageRef

end BeanContainer
