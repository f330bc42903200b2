import BeanContainer.Deployment.Model
import BeanContainer.Deployment.Call
import BeanContainer.Deployment.Validation
import BeanContainer.Discovery.ClassIndex
import BeanContainer.Lifecycle.Registry
/-!
# Stages of a builder

A builder is configured, is started once, and is then used up: from the first poll of its start it
accepts no call any more. A start that succeeds leaves a running container, which goes down at last;
one that fails or is abandoned leaves nothing.
-/

namespace BeanContainer

/-- A start that has begun: what is deployed, with what was settled at the first poll. -/
structure Bootstrap where
  deployment : Deployment
  /-- Properties that take precedence over those of the deployment. -/
  params : Properties
  loader : Loader
  /-- Whether the loader had been closed when the start began. -/
  closed : Bool

namespace Bootstrap

/-- Begin to start a deployment. -/
def start (d : Deployment) (params : Properties) (h : Host) (isClosed : Loader → Bool) :
    Bootstrap :=
  let loader := d.loader.getD h.defaultLoader
  ⟨d, params, loader, isClosed loader⟩

/-- The scans to be asked: one per package, then one for bean archives; none if discovery is
disabled or the loader was closed. -/
def scans (s : Bootstrap) : List Scan :=
  if s.deployment.discovery && !s.closed then
    s.deployment.packages.map .package ++ [.archives]
  else []

def sources (s : Bootstrap) (builder : Nat) (f : Findings) : List Source :=
  s.deployment.sources builder f.classes

/-- The lease that the container is to hold. -/
def lease? (s : Bootstrap) : Option Lease :=
  s.deployment.containerId.map fun id => ⟨s.deployment.registry, id⟩

def model (s : Bootstrap) (builder : Nat) (f : Findings) : Model :=
  s.deployment.model s.params s.loader (s.sources builder f)

end Bootstrap

/-- A container that is up, with the lease of its identifier if it has one. -/
structure Container where
  model : Model
  lease : Option Lease

/-- What has become of a builder. -/
inductive Stage where
  | configuring (deployment : Deployment)
  | bootstrapping (bootstrap : Bootstrap) (pending : Pending)
  | running (container : Container)
  | stopped
  | failed

namespace Stage

/-- The deployment, as long as it can be added to. -/
def deployment? : Stage → Option Deployment
  | .configuring d => some d
  | _ => none

/-- The identifier that the builder shows. It shows none when it has handed its deployment over. -/
def containerId (s : Stage) : Option String := s.deployment?.bind Deployment.containerId

/-- Whether discovery is enabled, as the builder shows it: it is unless the builder has a deployment
that says otherwise. -/
def discovery (s : Stage) : Bool := (s.deployment?.map Deployment.discovery).getD true

def isInitialized : Stage → Bool
  | .running _ | .stopped => true
  | _ => false

/-- Make a call on the builder: how it ends, and what becomes of the builder. One that cannot be
configured any more does not even look at the argument. -/
def call (s : Stage) (c : Call) : Except BootstrapError Unit × Stage :=
  match s with
  | .configuring d =>
    let (result, d) := d.call c
    (result.mapError .illegalArgument, .configuring d)
  | .running _ | .stopped => (.error (.illegalState .alreadyInitialized), s)
  | .bootstrapping .. | .failed => (.error (.illegalState .failedEarlier), s)

/-- A builder that can be configured refuses a call for a fault of its argument. It is not changed
by calls that it refuses. -/
theorem call_configuring (d : Deployment) (c : Call) :
    call (.configuring d) c =
      c.fault?.elim (.ok (), .configuring (d.apply c))
        fun e => (.error (.illegalArgument e), .configuring d) := by
  rw [call, d.call_eq]
  cases c.fault? <;> rfl

def container? : Stage → Option Container
  | .running c => some c
  | _ => none

/-- The lease that the builder's container holds. -/
def lease? (s : Stage) : Option Lease := s.container?.bind Container.lease

end Stage

end BeanContainer
