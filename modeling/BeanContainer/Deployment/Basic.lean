import BeanContainer.Annotation.Override
import BeanContainer.Bean
import BeanContainer.Class.ClassList
import BeanContainer.Class.Package
import BeanContainer.Properties
/-!
# Deployments

A deployment is what has been said so far about the container to be started. Everything accumulates
and nothing is validated: lists keep the order in which their entries were first mentioned, and
values that can be set keep what was set last.
-/

namespace BeanContainer

/-- An observer of the life of containers. Extensions are told apart by their serial number. -/
structure Extension where
  serial : Nat
  name : String
  deriving DecidableEq, Inhabited

/-- A bean of a deployment: described on the builder, or made beforehand. -/
inductive BeanEntry where
  | configured (definition : BeanDefinition)
  | ready (bean : Bean)

namespace BeanEntry

/-- Whether the entry is the given bean, made beforehand. -/
def isBean (b : Bean) : BeanEntry → Bool
  | .configured _ => false
  | .ready b' => b'.same b

/-- What is said about the bean. -/
def definition : BeanEntry → BeanDefinition
  | .configured d => d
  | .ready b => b.definition

/-- The bean that a builder makes of the entry at a position. -/
def bean (builder position : Nat) : BeanEntry → Bean
  | .configured d => ⟨.configured builder position, d⟩
  | .ready b => b

end BeanEntry

/-- The classes enabled in each role, in the order of their priority. -/
structure Enablement where
  interceptors : ClassList := ∅
  decorators : ClassList := ∅
  alternatives : ClassList := ∅
  stereotypes : ClassList := ∅
  deriving Inhabited

namespace Enablement

def get (e : Enablement) : Role → ClassList
  | .interceptor => e.interceptors
  | .decorator => e.decorators
  | .alternative => e.alternatives
  | .stereotype => e.stereotypes

def extend (e : Enablement) (role : Role) (cs : List ClassRef) : Enablement :=
  match role with
  | .interceptor => { e with interceptors := e.interceptors.extend cs }
  | .decorator => { e with decorators := e.decorators.extend cs }
  | .alternative => { e with alternatives := e.alternatives.extend cs }
  | .stereotype => { e with stereotypes := e.stereotypes.extend cs }

end Enablement

/-- The description of a container to be started. -/
structure Deployment where
  containerId : Option String := none
  /-- The classes deployed without being discovered. -/
  beanClasses : ClassList := ∅
  /-- The packages to be scanned, each once. -/
  packages : List PackageRef := []
  /-- Overrides in the order in which they were given. -/
  overrides : List TypeOverride := []
  extensions : List Extension := []
  enablement : Enablement := {}
  properties : Properties := ∅
  beans : List BeanEntry := []
  discovery : Bool := true
  /-- The loader of the deployment; that of the host if there is none. -/
  loader : Option Loader := none
  environment : Nat
  registry : Nat

namespace Deployment

/-- Ask for one more package; two requests for one package are one. -/
def requestPackage (d : Deployment) (p : PackageRef) : Deployment :=
  { d with packages := Keyed.put PackageRef.name PackageRef.union p d.packages }

/-- Add an extension that has not been added yet. -/
def addExtension (d : Deployment) (x : Extension) : Deployment :=
  { d with extensions := Keyed.put Extension.serial Keyed.first x d.extensions }

/-- Add a bean that has not been added yet. -/
def addBean (d : Deployment) (b : Bean) : Deployment :=
  if d.beans.any (BeanEntry.isBean b) then d else { d with beans := d.beans ++ [.ready b] }

/-- Entries with one more bean, unless it is among them already. -/
theorem addBean_eq (d : Deployment) (b : Bean) :
    d.addBean b =
      { d with
        beans := if d.beans.any (BeanEntry.isBean b) then d.beans else d.beans ++ [.ready b] } := by
  rw [addBean]
  split <;> rfl

theorem foldl_requestPackage (d : Deployment) (ps : List PackageRef) :
    ps.foldl requestPackage d =
      { d with packages := Keyed.putAll PackageRef.name PackageRef.union d.packages ps } := by
  induction ps generalizing d with
  | nil => rfl
  | cons p ps ih => exact ih (d.requestPackage p)

theorem foldl_addExtension (d : Deployment) (xs : List Extension) :
    xs.foldl addExtension d =
      { d with extensions := Keyed.putAll Extension.serial Keyed.first d.extensions xs } := by
  induction xs generalizing d with
  | nil => rfl
  | cons x xs ih => exact ih (d.addExtension x)

theorem foldl_addBean (d : Deployment) (bs : List Bean) :
    bs.foldl addBean d = { d with beans := (bs.foldl addBean d).beans } := by
  induction bs generalizing d with
  | nil => rfl
  | cons b bs ih =>
    calc (b :: bs).foldl addBean d
        = { d.addBean b with beans := (bs.foldl addBean (d.addBean b)).beans } := ih _
      _ = { d with beans := ((b :: bs).foldl addBean d).beans } := by
          rw [addBean_eq, List.foldl_cons, addBean_eq]

/-- The beans of the deployment of a builder. -/
def builtBeans (d : Deployment) (builder : Nat) : List Bean :=
  d.beans.mapIdx fun position e => e.bean builder position

end Deployment

end BeanContainer
