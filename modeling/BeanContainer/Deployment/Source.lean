import BeanContainer.Deployment.Basic
/-!
# Bean sources

What a deployment offers for selection: classes, each with the reason why it is deployed and the
annotations that overrides give it, and after them the synthetic beans.
-/

namespace BeanContainer

/-- Why a class is deployed. -/
inductive Origin where
  /-- It was named on the builder. -/
  | synthetic
  /-- Only an override names it. -/
  | override
  /-- A scan found it. -/
  | discovered
  deriving DecidableEq, Repr

def Origin.name : Origin → String
  | .synthetic => "Synthetic"
  | .override => "Override"
  | .discovered => "Discovered"

/-- Something that can be selected. -/
inductive Source where
  /-- A class, with its annotations if it is overridden. -/
  | ofClass (deployed : ClassRef) (origin : Origin) (metadata : Option TypeMetadata)
  | ofBean (bean : Bean)

namespace Source

def implementation : Source → ClassRef
  | .ofClass c _ _ => c
  | .ofBean b => b.implementation

def bean? : Source → Option Bean
  | .ofClass .. => none
  | .ofBean b => some b

def class? : Source → Option ClassRef
  | .ofClass c _ _ => some c
  | .ofBean _ => none

/-- The name of a bean that has one. -/
def beanName? (s : Source) : Option String := s.bean?.bind Bean.name

/-- Whether selecting by a class can yield the source. -/
def isSelectedBy (c : ClassRef) : Source → Bool
  | .ofClass d _ _ => d == c
  | .ofBean b => b.types.contains c

def diagnostic : Source → String
  | .ofClass c origin metadata =>
    Text.record "Class"
      [("class", c.diagnostic), ("origin", origin.name),
       ("metadata", Text.optional TypeMetadata.diagnostic metadata)]
  | .ofBean b => Text.applied "Bean" b.diagnostic

end Source

namespace Deployment

/-- One override per class. -/
def mergedOverrides (d : Deployment) : List TypeOverride := TypeOverride.merge d.overrides

/-- The annotations that overrides give to a class. -/
def metadataOf (d : Deployment) (c : ClassRef) : Option TypeMetadata :=
  (d.mergedOverrides.find? fun o => o.target == c).map TypeOverride.metadata

/-- Every class that is mentioned, with the reason: named classes first, then those that scans
found, then those that overrides target. -/
def mentions (d : Deployment) (found : List ClassRef) : List (ClassRef × Origin) :=
  d.beanClasses.toList.map (·, .synthetic) ++ found.map (·, .discovered) ++
    d.mergedOverrides.map (·.target, .override)

/-- The deployed classes: each where it is mentioned first and for that reason. -/
def classSources (d : Deployment) (found : List ClassRef) : List Source :=
  (Keyed.gather (fun m => m.1.id) Keyed.first (d.mentions found)).map fun m =>
    .ofClass m.1 m.2 (d.metadataOf m.1)

/-- All sources of the deployment of a builder, given what scans found. -/
def sources (d : Deployment) (builder : Nat) (found : List ClassRef) : List Source :=
  d.classSources found ++ (d.builtBeans builder).map .ofBean

end Deployment

end BeanContainer
