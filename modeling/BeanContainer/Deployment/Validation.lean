import BeanContainer.Deployment.Problem
import BeanContainer.Deployment.Source
import BeanContainer.Discovery.Progress
/-!
# Validation

`Deployment.problems` lists the faults of a deployment that do not depend on other containers: the
loader and the scans, then the classes that are enabled without the marker for it, then overrides of
members without a name, then names that several beans share.
-/

namespace BeanContainer

namespace Deployment

/-- The classes that are enabled in a role without declaring it. -/
def enablementProblems (d : Deployment) : List Problem :=
  Role.all.flatMap fun role =>
    ((d.enablement.get role).toList.filter fun c => !c.markers.has role).map
      (Problem.missingMarker role)

/-- The classes with an edit of a member without a name. -/
def overrideProblems (d : Deployment) : List Problem :=
  (d.mergedOverrides.filter TypeOverride.hasEmptyMember).map fun o => .emptyMemberName o.target

/-- The names of synthetic beans, without empty ones. -/
def beanNames (d : Deployment) : List String :=
  (d.beans.filterMap fun e => e.definition.name).filter fun name => !name.isEmpty

/-- The names that more than one bean has, in the order of their first use. -/
def nameProblems (d : Deployment) : List Problem :=
  ((Keyed.gather id Keyed.first d.beanNames).filter fun name => 1 < d.beanNames.count name).map
    .ambiguousBeanName

/-- The faults of a deployment, given its loader, whether that has been closed, and what scans
answered. -/
def problems (d : Deployment) (loader : Loader) (closed : Bool) (findings : Findings) :
    List Problem :=
  (if closed then [.loaderClosed loader] else []) ++
    findings.failures.map (fun f => .scanFailed loader f.1 f.2) ++
    d.enablementProblems ++ d.overrideProblems ++ d.nameProblems

end Deployment

end BeanContainer
