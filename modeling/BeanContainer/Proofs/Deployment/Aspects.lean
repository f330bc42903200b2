import BeanContainer.Proofs.Deployment.Accumulation
import Mathlib.Logic.Function.Basic
/-!
# Aspects of a deployment

A deployment has aspects that have nothing to do with each other: each call changes one of them, by
what that aspect says and by nothing else (`Deployment.apply_eq_change`). So calls that concern
different aspects can be made in either order (`Deployment.apply_comm`).

Classes to be deployed and the interceptors and decorators among them are one aspect, because to
enable a class in either role is to deploy it, too. Within this aspect the order of two calls
decides about the order of the deployed classes, but about nothing else if they are calls for
different lists (`Deployment.reordered_apply_comm`).
-/

namespace BeanContainer

/-- What can be said about a deployment without regard to the rest. -/
inductive Aspect where
  | containerId
  /-- The classes to be deployed, with the interceptors and decorators among them. -/
  | classes
  | packages
  | overrides
  | extensions
  | alternatives
  | stereotypes
  | properties
  | beans
  | discovery
  | loader
  | environment
  | registry
  deriving DecidableEq

/-- What a deployment can say about an aspect. Of classes it says which are deployed, which are
interceptors, and which are decorators. -/
def Aspect.Content : Aspect → Type
  | .containerId => Option String
  | .classes => ClassList × ClassList × ClassList
  | .packages => List PackageRef
  | .overrides => List TypeOverride
  | .extensions => List Extension
  | .alternatives | .stereotypes => ClassList
  | .properties => Properties
  | .beans => List BeanEntry
  | .discovery => Bool
  | .loader => Option Loader
  | .environment | .registry => Nat

namespace Deployment

def content (d : Deployment) : (a : Aspect) → a.Content
  | .containerId => d.containerId
  | .classes => (d.beanClasses, d.enablement.interceptors, d.enablement.decorators)
  | .packages => d.packages
  | .overrides => d.overrides
  | .extensions => d.extensions
  | .alternatives => d.enablement.alternatives
  | .stereotypes => d.enablement.stereotypes
  | .properties => d.properties
  | .beans => d.beans
  | .discovery => d.discovery
  | .loader => d.loader
  | .environment => d.environment
  | .registry => d.registry

/-- The deployment that says this about its aspects. -/
def ofContent (f : (a : Aspect) → a.Content) : Deployment where
  containerId := f .containerId
  beanClasses := (f .classes).1
  packages := f .packages
  overrides := f .overrides
  extensions := f .extensions
  enablement :=
    { interceptors := (f .classes).2.1
      decorators := (f .classes).2.2
      alternatives := f .alternatives
      stereotypes := f .stereotypes }
  properties := f .properties
  beans := f .beans
  discovery := f .discovery
  loader := f .loader
  environment := f .environment
  registry := f .registry

@[simp] lemma content_ofContent (f : (a : Aspect) → a.Content) : (ofContent f).content = f := by
  funext a
  cases a <;> rfl

/-- Change one aspect by what it says. -/
def change (d : Deployment) (a : Aspect) (f : a.Content → a.Content) : Deployment :=
  ofContent (Function.update d.content a (f (d.content a)))

/-- Changes of different aspects do not interfere. -/
lemma change_comm (d : Deployment) {a a' : Aspect} (h : a ≠ a') (f : a.Content → a.Content)
    (g : a'.Content → a'.Content) : (d.change a f).change a' g = (d.change a' g).change a f := by
  simp only [change, content_ofContent]
  rw [Function.update_of_ne h.symm, Function.update_of_ne h, Function.update_comm h]

end Deployment

/-! ### Calls -/

namespace Call

/-- The aspect that a call concerns. -/
def aspect : Call → Aspect
  | .setContainerId _ => .containerId
  | .addBeanClasses _ | .enable .interceptor _ | .enable .decorator _ => .classes
  | .addPackages _ _ => .packages
  | .enable .alternative _ => .alternatives
  | .enable .stereotype _ => .stereotypes
  | .addExtensions _ => .extensions
  | .setProperty _ _ | .mergeProperties _ => .properties
  | .configureType _ _ | .addOverrides _ => .overrides
  | .configureBean _ _ | .addBeans _ => .beans
  | .setDiscovery _ => .discovery
  | .setLoader _ => .loader
  | .setEnvironment _ => .environment
  | .setRegistry _ => .registry

/-- What a call makes of the aspect that it concerns. -/
def effect : (c : Call) → c.aspect.Content → c.aspect.Content
  | .setContainerId id, _ => if id.isEmpty then none else some id
  | .addBeanClasses cs, l => (ClassList.extend l.1 cs, l.2.1, l.2.2)
  | .enable .interceptor cs, l => (ClassList.extend l.1 cs, ClassList.extend l.2.1 cs, l.2.2)
  | .enable .decorator cs, l => (ClassList.extend l.1 cs, l.2.1, ClassList.extend l.2.2 cs)
  | .enable .alternative cs, l => ClassList.extend l cs
  | .enable .stereotype cs, l => ClassList.extend l cs
  | .addPackages recursive cs, ps => Keyed.putAll PackageRef.name PackageRef.union ps
      (cs.map fun c => PackageRef.ofClass c recursive)
  | .addExtensions xs, ys => Keyed.putAll Extension.serial Keyed.first ys xs
  | .setProperty key v, p =>
    match v.encode with
    | .ok j => Dictionary.insert p key j
    | .error _ => p
  | .mergeProperties q, p => Dictionary.merge p q
  | .configureType c edits, os => List.append os [⟨c, edits⟩]
  | .addOverrides os', os => List.append os os'
  | .configureBean c edits, es =>
    List.append es [.configured ((BeanDefinition.ofClass c).edit edits)]
  | .addBeans bs, es => List.foldl BeanEntry.addTo es (bs.map .ready)
  | .setDiscovery enabled, _ => enabled
  | .setLoader loader, _ => some loader
  | .setEnvironment environment, _ => environment
  | .setRegistry registry, _ => registry

end Call

namespace Deployment

/-- A call changes the aspect that it concerns, by what that aspect says, and nothing else. -/
lemma apply_eq_change (d : Deployment) (c : Call) : d.apply c = d.change c.aspect c.effect := by
  cases c with
  | enable role cs => cases role <;> rfl
  | addPackages recursive cs =>
    rw [apply, foldl_requestPackage]
    rfl
  | addExtensions xs =>
    rw [apply, foldl_addExtension]
    rfl
  | addBeans bs =>
    rw [apply, foldl_addBean, beans_foldl_addBean]
    rfl
  | setProperty key v =>
    -- both sides decide by the form of the value, each for itself
    have heffect : ∀ r, v.encode = r → d.apply (.setProperty key v) =
        d.change .properties fun p =>
          match r with
          | .ok j => Dictionary.insert p key j
          | .error _ => p := by
      rintro r rfl
      rw [apply]
      cases v.encode <;> rfl
    exact heffect _ rfl
  | _ => rfl

/-- Calls that concern different aspects can be made in either order. -/
theorem apply_comm (d : Deployment) {c c' : Call} (h : c.aspect ≠ c'.aspect) :
    (d.apply c).apply c' = (d.apply c').apply c := by
  simp only [apply_eq_change, d.change_comm h]

end Deployment

/-! ### Classes in another order -/

namespace ClassList

/-- The same classes, in whatever order and by whatever references. -/
def SameClasses (l l' : ClassList) : Prop :=
  (l.toList.map ClassRef.id).Perm (l'.toList.map ClassRef.id)

lemma sameClasses_iff {l l' : ClassList} :
    l.SameClasses l' ↔ ∀ k, k ∈ l.toList.map ClassRef.id ↔ k ∈ l'.toList.map ClassRef.id :=
  List.perm_ext_iff_of_nodup l.nodup l'.nodup

lemma mem_map_id_extend {l : ClassList} {cs : List ClassRef} {k : ClassId} :
    k ∈ (l.extend cs).toList.map ClassRef.id ↔
      k ∈ l.toList.map ClassRef.id ∨ k ∈ cs.map ClassRef.id := by
  rw [toList_extend_eq_firsts (Keyed.firsts_of_nodup l.nodup).symm, Keyed.mem_map_firsts,
    List.map_append, List.mem_append]

lemma SameClasses.extend {l l' : ClassList} (h : l.SameClasses l') (cs : List ClassRef) :
    (l.extend cs).SameClasses (l'.extend cs) := by
  rw [sameClasses_iff] at h ⊢
  simp only [mem_map_id_extend, h, implies_true]

lemma sameClasses_extend_comm (l : ClassList) (cs cs' : List ClassRef) :
    ((l.extend cs).extend cs').SameClasses ((l.extend cs').extend cs) := by
  rw [sameClasses_iff]
  intro k
  simp only [mem_map_id_extend, or_assoc, or_comm (a := k ∈ cs.map ClassRef.id)]

end ClassList

/-- The role in which a call enables classes. -/
def Call.role? : Call → Option Role
  | .enable role _ => some role
  | _ => none

lemma Call.enabled_of_role?_ne {c : Call} {role : Role} (h : c.role? ≠ some role) :
    c.enabled role = [] := by
  cases c with
  | enable r cs =>
    rw [role?, Ne, Option.some.injEq] at h
    exact if_neg h
  | _ => rfl

lemma Enablement.extendEach_comm (e : Enablement) {classes classes' : Role → List ClassRef}
    (h : ∀ role, classes role = [] ∨ classes' role = []) :
    (e.extendEach classes).extendEach classes' = (e.extendEach classes').extendEach classes := by
  have hcomm : ∀ (l : ClassList) role,
      (l.extend (classes role)).extend (classes' role) =
        (l.extend (classes' role)).extend (classes role) := by
    intro l role
    rcases h role with h | h <;> rw [h] <;> rfl
  simp only [extendEach, hcomm]

namespace Deployment

/-- Two deployments that say the same, except that the classes to be deployed may stand in another
order and be given by other references. -/
structure Reordered (d d' : Deployment) : Prop where
  rest : d' = { d with beanClasses := d'.beanClasses }
  beanClasses : d.beanClasses.SameClasses d'.beanClasses

lemma Reordered.refl (d : Deployment) : d.Reordered d := ⟨rfl, List.Perm.refl _⟩

/-- Calls do not look at the classes that are to be deployed, but for adding to them. -/
lemma apply_with_beanClasses (d : Deployment) (l : ClassList) (c : Call) :
    apply { d with beanClasses := l } c = { d.apply c with beanClasses := l.extend c.named } := by
  cases c with
  | enable role cs => cases role <;> rfl
  | addPackages recursive cs =>
    simp only [apply, foldl_requestPackage]
    rfl
  | addExtensions xs =>
    simp only [apply, foldl_addExtension]
    rfl
  | addBeans bs =>
    rw [apply, apply, foldl_addBean, beans_foldl_addBean, foldl_addBean d, beans_foldl_addBean]
    rfl
  | setProperty key v =>
    rw [apply, apply]
    cases v.encode <;> rfl
  | _ => rfl

lemma Reordered.apply {d d' : Deployment} (h : d.Reordered d') (c : Call) :
    (d.apply c).Reordered (d'.apply c) := by
  have hclasses : ∀ d : Deployment, (d.apply c).beanClasses = d.beanClasses.extend c.named := by
    intro d
    rw [apply_eq]
  refine ⟨?_, ?_⟩
  · rw [hclasses, ← apply_with_beanClasses, ← h.rest]
  · rw [hclasses, hclasses]
    exact h.beanClasses.extend _

/-- What a call does that concerns classes to be deployed. -/
lemma apply_of_classes (d : Deployment) {c : Call} (h : c.aspect = .classes) :
    d.apply c =
      { d with
        beanClasses := d.beanClasses.extend c.named
        enablement := d.enablement.extendEach fun role => c.enabled role } := by
  cases c with
  | addBeanClasses cs => rfl
  | enable role cs =>
    cases role with
    | interceptor => rfl
    | decorator => rfl
    | alternative => cases h
    | stereotype => cases h
  | _ => cases h

/-- Calls for different lists can be made in either order, but for the order of the classes to be
deployed. -/
theorem reordered_apply_comm (d : Deployment) {c c' : Call} (hc : c.aspect = .classes)
    (hc' : c'.aspect = .classes) (h : c.role? ≠ c'.role?) :
    ((d.apply c).apply c').Reordered ((d.apply c').apply c) := by
  have henabled : ∀ role, c.enabled role = [] ∨ c'.enabled role = [] := by
    intro role
    by_cases hrole : c.role? = some role
    · exact .inr (Call.enabled_of_role?_ne fun e => h (hrole.trans e.symm))
    · exact .inl (Call.enabled_of_role?_ne hrole)
  simp only [apply_of_classes _ hc, apply_of_classes _ hc']
  refine ⟨?_, ClassList.sameClasses_extend_comm _ _ _⟩
  rw [Enablement.extendEach_comm _ henabled]

end Deployment

end BeanContainer
