import BeanContainer.Deployment.Call
import BeanContainer.Proofs.Class.Listed
/-!
# What calls add up to

Every call says something about the classes, packages, overrides, beans and extensions of a
deployment, or sets one of its values (`Call.named`, `Call.requested`, ...), and says it no matter
what was said before. A deployment is what its calls say taken together: `Deployment.Accumulates`
ties the one to the others, and each call keeps it (`Deployment.Accumulates.apply`).
-/

namespace BeanContainer

/-! ### What one call says -/

namespace Call

/-- The classes to be deployed. Interceptors and decorators are among them. -/
@[simp] def named : Call → List ClassRef
  | .addBeanClasses cs => cs
  | .enable .interceptor cs => cs
  | .enable .decorator cs => cs
  | _ => []

@[simp] def enabled (role : Role) : Call → List ClassRef
  | .enable r cs => if r = role then cs else []
  | _ => []

@[simp] def requested : Call → List PackageRef
  | .addPackages recursive cs => cs.map fun c => PackageRef.ofClass c recursive
  | _ => []

@[simp] def overrides : Call → List TypeOverride
  | .configureType c edits => [⟨c, edits⟩]
  | .addOverrides os => os
  | _ => []

@[simp] def beans : Call → List BeanEntry
  | .configureBean c edits => [.configured ((BeanDefinition.ofClass c).edit edits)]
  | .addBeans bs => bs.map .ready
  | _ => []

@[simp] def extensions : Call → List Extension
  | .addExtensions xs => xs
  | _ => []

/-- The identifier that is set, or that none is to be held. -/
@[simp] def containerId? : Call → Option (Option String)
  | .setContainerId id => some (if id.isEmpty then none else some id)
  | _ => none

/-- Whether discovery is enabled, if that is set. -/
@[simp] def discovery? : Call → Option Bool
  | .setDiscovery enabled => some enabled
  | _ => none

@[simp] def loader? : Call → Option Loader
  | .setLoader loader => some loader
  | _ => none

@[simp] def registryNumber? : Call → Option Nat
  | .setRegistry registry => some registry
  | _ => none

lemma registryNumber?_eq_some_iff {c : Call} {r : Nat} :
    c.registryNumber? = some r ↔ c = .setRegistry r := by
  cases c <;> simp

/-- What several calls set last, if they set it at all. -/
def latest? {α : Type} (value? : Call → Option α) (calls : List Call) : Option α :=
  (calls.filterMap value?).getLast?

lemma latest?_concat {α : Type} (value? : Call → Option α) (calls : List Call) (c : Call) :
    latest? value? (calls ++ [c]) = (value? c).or (latest? value? calls) := by
  cases h : value? c <;> simp [latest?, List.filterMap_append, h]

end Call

/-! ### Beans -/

namespace BeanEntry

/-- Whether two entries are one bean, made beforehand. Beans that a builder describes are never the
same. -/
def same : BeanEntry → BeanEntry → Bool
  | .ready b, .ready b' => b'.same b
  | _, _ => false

def addTo (entries : List BeanEntry) (e : BeanEntry) : List BeanEntry :=
  if entries.any e.same then entries else entries ++ [e]

lemma addTo_configured (entries : List BeanEntry) (d : BeanDefinition) :
    addTo entries (.configured d) = entries ++ [.configured d] := by
  have h : entries.any (BeanEntry.configured d).same = false := by simp [same]
  simp [addTo, h]

lemma addTo_ready (entries : List BeanEntry) (b : Bean) :
    addTo entries (.ready b) =
      if entries.any (isBean b) then entries else entries ++ [.ready b] := by
  have h : (BeanEntry.ready b).same = isBean b := by
    funext e
    cases e <;> rfl
  rw [addTo, h]

/-- Entries that are added one after the other are those that are not the same as an earlier
one. -/
lemma eraseDupsBy_append (xs ys : List BeanEntry) :
    (xs ++ ys).eraseDupsBy same = ys.foldl addTo (xs.eraseDupsBy same) := by
  induction ys using List.reverseRecOn with
  | nil => simp
  | append_singleton ys y ih =>
    rw [← List.append_assoc, eraseDupsBy_concat, ih, List.foldl_append]
    simp only [List.foldl_cons, List.foldl_nil, addTo]
    split <;> simp

end BeanEntry

/-- Enable more classes in every role. -/
def Enablement.extendEach (e : Enablement) (classes : Role → List ClassRef) : Enablement :=
  { interceptors := e.interceptors.extend (classes .interceptor)
    decorators := e.decorators.extend (classes .decorator)
    alternatives := e.alternatives.extend (classes .alternative)
    stereotypes := e.stereotypes.extend (classes .stereotype) }

@[simp] lemma Enablement.extendEach_nil (e : Enablement) : e.extendEach (fun _ => []) = e := rfl

@[simp] lemma Enablement.get_extendEach (e : Enablement) (classes : Role → List ClassRef)
    (role : Role) : (e.extendEach classes).get role = (e.get role).extend (classes role) := by
  cases role <;> rfl

namespace Deployment

lemma beans_foldl_addBean (d : Deployment) (bs : List Bean) :
    (bs.foldl addBean d).beans = (bs.map .ready).foldl BeanEntry.addTo d.beans := by
  induction bs generalizing d with
  | nil => rfl
  | cons b bs ih =>
    rw [List.foldl_cons, ih, addBean_eq, List.map_cons, List.foldl_cons, BeanEntry.addTo_ready]

/-! ### What a call does -/

/-- A call extends a deployment by what it says, and that is all it does. -/
lemma apply_eq (d : Deployment) (c : Call) :
    d.apply c =
      { containerId := c.containerId?.getD d.containerId
        beanClasses := d.beanClasses.extend c.named
        packages := Keyed.putAll PackageRef.name PackageRef.union d.packages c.requested
        overrides := d.overrides ++ c.overrides
        extensions := Keyed.putAll Extension.serial Keyed.first d.extensions c.extensions
        enablement := d.enablement.extendEach fun role => c.enabled role
        properties := (d.apply c).properties
        beans := c.beans.foldl BeanEntry.addTo d.beans
        discovery := c.discovery?.getD d.discovery
        loader := c.loader?.or d.loader
        environment := (d.apply c).environment
        registry := c.registryNumber?.getD d.registry } := by
  cases c with
  | enable role cs => cases role <;> simp [apply, enable, Enablement.extend, Enablement.extendEach]
  | addPackages recursive cs => simp [apply, foldl_requestPackage]
  | addExtensions xs => simp [apply, foldl_addExtension]
  | configureBean c edits => simp [apply, BeanEntry.addTo_configured]
  | addBeans bs =>
    simp only [apply]
    rw [foldl_addBean, beans_foldl_addBean]
    simp
  | setProperty key value =>
    simp only [apply]
    split <;> simp
  | _ => simp [apply]

lemma registry_apply (d : Deployment) (c : Call) :
    (d.apply c).registry = c.registryNumber?.getD d.registry := by
  rw [apply_eq]

/-! ### What several calls do -/

/-- A deployment is what calls say taken together. Classes and packages stand where they were
mentioned first, and a package is scanned recursively if any call asks for that; of a bean that is
added several times, the first entry stays; and of the values that are set, the last one counts. -/
structure Accumulates (d : Deployment) (calls : List Call) : Prop where
  containerId : d.containerId = (Call.latest? Call.containerId? calls).join
  beanClasses : d.beanClasses.toList = Keyed.firsts ClassRef.id (calls.flatMap Call.named)
  packages : d.packages =
    Keyed.gather PackageRef.name PackageRef.union (calls.flatMap Call.requested)
  overrides : d.overrides = calls.flatMap Call.overrides
  extensions : d.extensions = Keyed.firsts Extension.serial (calls.flatMap Call.extensions)
  enablement : ∀ role, (d.enablement.get role).toList =
    Keyed.firsts ClassRef.id (calls.flatMap (Call.enabled role))
  beans : d.beans = (calls.flatMap Call.beans).eraseDupsBy BeanEntry.same
  discovery : d.discovery = (Call.latest? Call.discovery? calls).getD true
  loader : d.loader = Call.latest? Call.loader? calls
  registry : d.registry = (Call.latest? Call.registryNumber? calls).getD 0

lemma accumulates_nil (environment : Nat) :
    Accumulates { environment, registry := 0 } [] := by
  refine ⟨rfl, rfl, rfl, rfl, rfl, ?_, rfl, rfl, rfl, rfl⟩
  intro role
  cases role <;> rfl

theorem Accumulates.apply {d : Deployment} {calls : List Call} (h : d.Accumulates calls)
    (c : Call) : (d.apply c).Accumulates (calls ++ [c]) := by
  rw [apply_eq]
  constructor
  · simp only [Call.latest?_concat, h.containerId]
    cases c.containerId? <;> rfl
  · simpa using ClassList.toList_extend_eq_firsts h.beanClasses c.named
  · simp [h.packages, Keyed.gather, Keyed.putAll_append]
  · simp [h.overrides]
  · simp [h.extensions, ← Keyed.gather_first, Keyed.gather, Keyed.putAll_append]
  · intro role
    rw [Enablement.get_extendEach, List.flatMap_append, List.flatMap_singleton]
    exact ClassList.toList_extend_eq_firsts (h.enablement role) _
  · simp [h.beans, BeanEntry.eraseDupsBy_append]
  · simp only [Call.latest?_concat, h.discovery]
    cases c.discovery? <;> rfl
  · simp only [Call.latest?_concat, h.loader]
  · simp only [Call.latest?_concat, h.registry]
    cases c.registryNumber? <;> rfl

end Deployment

end BeanContainer
