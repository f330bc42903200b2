import BeanContainer.Class.Package
/-!
# Hosts

A host answers scans: which classes a package holds, and which classes the bean archives of a loader
hold. An answer may take time. `Reply` says after how many polls it is there, and that it may never
be.
-/

namespace BeanContainer

/-- A question to a host about the classes of a loader. -/
inductive Scan where
  | package (request : PackageRef)
  | archives
  deriving DecidableEq, Inhabited

/-- What is scanned, in words. -/
def Scan.describe (loader : Loader) : Scan → String
  | .package request =>
    if request.name.isEmpty then "root package" else "package " ++ Text.quote request.name
  | .archives => "bean archives of " ++ Text.quote loader.name

/-- The classes found, or why none could be looked for. -/
abbrev Answer := Except String (List ClassRef)

/-- An answer and when it comes. -/
inductive Reply where
  /-- The answer is there when the scan has been polled this often in vain. -/
  | after (polls : Nat) (answer : Answer)
  | never

/-- Whoever answers scans. -/
structure Host where
  /-- Whether the host runs a container of its own, so that no other can be started in it. -/
  managed : Bool := false
  /-- The loader of deployments that name none. -/
  defaultLoader : Loader := .system
  reply : Loader → Scan → Reply

namespace Host

def empty : Host := { reply := fun _ _ => .after 0 (.ok []) }

instance : Inhabited Host := ⟨empty⟩

end Host

/-- Poll for an answer at most this often. -/
def Reply.await (polls : Nat) : Reply → Option Answer
  | .after n answer => if n < polls then some answer else none
  | .never => none

end BeanContainer
