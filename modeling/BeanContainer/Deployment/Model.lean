import BeanContainer.Deployment.Source
/-!
# Deployment models

The frozen result of a deployment, and what can be looked up in it. Selecting by a class prefers the
class itself to beans that offer it.
-/

namespace BeanContainer

/-- What a container is started with. -/
structure Model where
  containerId : Option String
  /-- Whether packages and bean archives were to be scanned. -/
  discovery : Bool
  loader : Loader
  sources : List Source
  enablement : Enablement
  extensions : List Extension
  properties : Properties

namespace Model

def beanClasses (m : Model) : List ClassRef := m.sources.filterMap Source.class?

def beans (m : Model) : List Bean := m.sources.filterMap Source.bean?

/-- Every source that can be selected by a class. -/
def selectAll (m : Model) (c : ClassRef) : List Source := m.sources.filter (Source.isSelectedBy c)

/-- The source that is selected by a class: the first class among them, or else the first bean. -/
def select (m : Model) (c : ClassRef) : Option Source :=
  let candidates := m.selectAll c
  (candidates.find? fun s => s.class?.isSome).or candidates.head?

def beansNamed (m : Model) (name : String) : List Source :=
  m.sources.filter fun s => s.beanName? == some name

def diagnostic (closed : Bool) (m : Model) : String :=
  Text.record "DeploymentModel"
    [("container_id", Text.optional Text.quote m.containerId),
     ("discovery", if m.discovery then "Enabled" else "Disabled"),
     ("class_loader", m.loader.diagnostic closed),
     ("sources", Text.listing (m.sources.map Source.diagnostic)),
     ("interceptors", m.enablement.interceptors.diagnostic),
     ("decorators", m.enablement.decorators.diagnostic),
     ("alternatives", m.enablement.alternatives.diagnostic),
     ("alternative_stereotypes", m.enablement.stereotypes.diagnostic),
     ("extensions", Text.listing (m.extensions.map fun x => Text.quote x.name)),
     ("properties", m.properties.diagnostic)]

end Model

namespace Deployment

/-- The model of a deployment without problems. The parameters of the start take precedence over the
properties. -/
def model (d : Deployment) (params : Properties) (loader : Loader) (sources : List Source) :
    Model :=
  { containerId := d.containerId
    discovery := d.discovery
    loader := loader
    sources := sources
    enablement := d.enablement
    extensions := d.extensions
    properties := d.properties.merge params }

end Deployment

end BeanContainer
