import BeanContainer.Deployment.Model
import BeanContainer.Discovery.Host
import BeanContainer.Lifecycle.Registry
/-!
# What happens to extensions and hosts

Extensions observe the life of a container through events, and hosts are asked scans. A `Notice` is
one entry of the history of both. The notice of an event also holds the registries as they were
while the event was delivered: an extension may look there for the identifier of its container.
-/

namespace BeanContainer

inductive Event where
  /-- The sources are known, and nothing has been validated. -/
  | afterBeanDiscovery (sources : List Source)
  /-- The deployment is valid and the container is about to be handed out. -/
  | afterDeploymentValidation (model : Model)
  /-- The container, with its identifier if it has one, is about to go down. -/
  | beforeShutdown (containerId : Option String)
  /-- Someone fired an event of their own. -/
  | custom (name : String) (payload : Json)

/-- An entry of the history. The builder is the one whose deployment or container is concerned. -/
inductive Notice where
  | asked (builder environment : Nat) (loader : Loader) (scan : Scan)
  | observed (builder : Nat) (extension : Extension) (event : Event) (registries : Nat → Registry)

end BeanContainer
