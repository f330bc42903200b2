import BeanContainer.Deployment.Basic
import BeanContainer.Deployment.Problem
import BeanContainer.Mutation
/-!
# Calls that extend a deployment

A call checks its argument and changes the deployment, one element after the other
(`Call.perform`). All checks come before the first change, and they look at the argument alone. So
a call has a fault or has none, whatever the deployment is (`Call.fault?`); if it has one, it fails
and leaves everything as it is, and if it has none, it takes effect as a whole
(`Deployment.apply`). This is `Deployment.call_eq`.
-/

namespace BeanContainer

/-- Something said about the container to be started. -/
inductive Call where
  /-- Name the container; the empty identifier stands for none. -/
  | setContainerId (id : String)
  | addBeanClasses (classes : List ClassRef)
  | addPackages (recursive : Bool) (classes : List ClassRef)
  /-- Enable classes in a role, in order of priority. -/
  | enable (role : Role) (classes : List ClassRef)
  | addExtensions (extensions : List Extension)
  | setProperty (key : String) (value : Encodable)
  | mergeProperties (properties : Properties)
  | configureType (target : ClassRef) (edits : List Edit)
  | addOverrides (overrides : List TypeOverride)
  | configureBean (implementation : ClassRef) (edits : List BeanEdit)
  | addBeans (beans : List Bean)
  | setDiscovery (enabled : Bool)
  | setLoader (loader : Loader)
  | setEnvironment (environment : Nat)
  | setRegistry (registry : Nat)

/-! ### Faults and effects -/

namespace Call

/-- The fault of a list of classes: one of them has no name. -/
def classFault? (classes : List ClassRef) : Option ArgumentError :=
  if classes.any fun c => c.name.isEmpty then some .emptyClassName else none

/-- The fault of a property: first that of its key, then that of its value. -/
def propertyFault? (key : String) (value : Encodable) : Option ArgumentError :=
  if key.isEmpty then some .emptyPropertyKey
  else
    match value.encode with
    | .ok _ => none
    | .error e => some (.unencodable key e)

/-- What makes the argument of a call unacceptable. -/
def fault? : Call → Option ArgumentError
  | .addBeanClasses cs => classFault? cs
  | .addPackages _ cs => classFault? cs
  | .enable _ cs => classFault? cs
  | .configureType c _ => classFault? [c]
  | .addOverrides os => classFault? (os.map TypeOverride.target)
  | .configureBean c _ => classFault? [c]
  | .setProperty key value => propertyFault? key value
  | .mergeProperties p => if p.contains "" then some .emptyPropertyKey else none
  | .setContainerId _ | .addExtensions _ | .addBeans _ | .setDiscovery _ | .setLoader _
  | .setEnvironment _ | .setRegistry _ => none

end Call

namespace Deployment

/-- Enable classes in a role. Interceptors and decorators are deployed as well. -/
def enable (d : Deployment) (role : Role) (cs : List ClassRef) : Deployment :=
  { d with
    enablement := d.enablement.extend role cs
    beanClasses :=
      match role with
      | .interceptor | .decorator => d.beanClasses.extend cs
      | .alternative | .stereotype => d.beanClasses }

/-- The effect of a call whose argument is acceptable. -/
def apply (d : Deployment) : Call → Deployment
  | .setContainerId id => { d with containerId := if id.isEmpty then none else some id }
  | .addBeanClasses cs => { d with beanClasses := d.beanClasses.extend cs }
  | .addPackages recursive cs =>
    (cs.map fun c => PackageRef.ofClass c recursive).foldl requestPackage d
  | .enable role cs => d.enable role cs
  | .addExtensions xs => xs.foldl addExtension d
  | .setProperty key value =>
    match value.encode with
    | .ok v => { d with properties := d.properties.insert key v }
    | .error _ => d
  | .mergeProperties p => { d with properties := d.properties.merge p }
  | .configureType c edits => { d with overrides := d.overrides ++ [⟨c, edits⟩] }
  | .addOverrides os => { d with overrides := d.overrides ++ os }
  | .configureBean c edits =>
    { d with beans := d.beans ++ [.configured ((BeanDefinition.ofClass c).edit edits)] }
  | .addBeans bs => bs.foldl addBean d
  | .setDiscovery enabled => { d with discovery := enabled }
  | .setLoader loader => { d with loader := some loader }
  | .setEnvironment environment => { d with environment }
  | .setRegistry registry => { d with registry }

end Deployment

/-! ### Calls one step at a time -/

/-- A class must have a name. -/
def checkClass (c : ClassRef) : Except ArgumentError Unit :=
  if c.name.isEmpty then .error .emptyClassName else .ok ()

/-- All classes must have names. -/
def checkClasses (cs : List ClassRef) : Except ArgumentError Unit := forM cs checkClass

namespace Call

open Mutation

/-- Carry a call out. What it does before it fails, if it does, is done for good. -/
def perform : Call → Mutation ArgumentError Deployment Unit
  | .addBeanClasses cs => do
    attempt (checkClasses cs)
    forM cs fun c => change fun d => { d with beanClasses := d.beanClasses.insert c }
  | .addPackages recursive cs => do
    attempt (checkClasses cs)
    forM cs fun c => change fun d => d.requestPackage (PackageRef.ofClass c recursive)
  | .enable role cs => do
    attempt (checkClasses cs)
    forM cs fun c => do
      change fun d => { d with enablement := d.enablement.extend role [c] }
      match role with
      | .interceptor | .decorator =>
        change fun d => { d with beanClasses := d.beanClasses.insert c }
      | .alternative | .stereotype => pure ()
  | .addExtensions xs => forM xs fun x => change fun d => d.addExtension x
  | .setProperty key value => do
    attempt (if key.isEmpty then .error .emptyPropertyKey else .ok ())
    let v ← attempt (value.encode.mapError (.unencodable key))
    change fun d => { d with properties := d.properties.insert key v }
  | .mergeProperties p => do
    attempt (if p.contains "" then .error .emptyPropertyKey else .ok ())
    forM p.toList fun e => change fun d => { d with properties := d.properties.insert e.1 e.2 }
  | .configureType c edits => do
    attempt (checkClass c)
    change fun d => { d with overrides := d.overrides ++ [⟨c, edits⟩] }
  | .addOverrides os => do
    attempt (checkClasses (os.map TypeOverride.target))
    forM os fun o => change fun d => { d with overrides := d.overrides ++ [o] }
  | .configureBean c edits => do
    attempt (checkClass c)
    change fun d =>
      { d with beans := d.beans ++ [.configured ((BeanDefinition.ofClass c).edit edits)] }
  | .addBeans bs => forM bs fun b => change fun d => d.addBean b
  -- all others set one value and have nothing to check
  | c => change fun d => d.apply c

end Call

/-- Make a call on a deployment: how it ends, and the deployment after it. -/
def Deployment.call (d : Deployment) (c : Call) : Except ArgumentError Unit × Deployment :=
  c.perform.run d

/-! ### All or nothing -/

theorem checkClass_eq (c : ClassRef) :
    checkClass c = (Call.classFault? [c]).elim (.ok ()) .error := by
  cases h : c.name.isEmpty <;> simp [checkClass, Call.classFault?, h]

theorem checkClasses_eq (cs : List ClassRef) :
    checkClasses cs = (Call.classFault? cs).elim (.ok ()) .error := by
  induction cs with
  | nil => rfl
  | cons c cs ih =>
    rw [checkClasses, List.forM_cons, ← checkClasses, ih]
    cases h : c.name.isEmpty <;> simp [checkClass, Call.classFault?, h, bind, Except.bind]

namespace Deployment

theorem foldl_insert_beanClasses (d : Deployment) (cs : List ClassRef) :
    cs.foldl (fun d c => { d with beanClasses := d.beanClasses.insert c }) d =
      { d with beanClasses := d.beanClasses.extend cs } :=
  List.foldl_hom (fun beanClasses => { d with beanClasses }) fun _ _ => rfl

theorem foldl_enable (d : Deployment) (role : Role) (cs : List ClassRef) :
    cs.foldl (fun d c => d.enable role [c]) d = d.enable role cs := by
  induction cs generalizing d with
  | nil => cases role <;> rfl
  | cons c cs ih =>
    rw [List.foldl_cons, ih]
    cases role <;> rfl

theorem foldl_insert_properties (d : Deployment) (es : List (String × Json)) :
    es.foldl (fun d e => { d with properties := d.properties.insert e.1 e.2 }) d =
      { d with properties := d.properties.insertAll es } :=
  List.foldl_hom (fun properties => { d with properties }) fun _ _ => rfl

theorem foldl_append_overrides (d : Deployment) (os : List TypeOverride) :
    os.foldl (fun d o => { d with overrides := d.overrides ++ [o] }) d =
      { d with overrides := d.overrides ++ os } := by
  induction os generalizing d with
  | nil => rw [List.foldl_nil, List.append_nil]
  | cons o os ih => rw [List.foldl_cons, ih, List.append_assoc, List.singleton_append]

end Deployment

open Mutation

/-- Checks that come before all changes decide whether these are made. -/
theorem Call.run_checked {fault : Option ArgumentError} {check : Except ArgumentError Unit}
    {changes : Mutation ArgumentError Deployment Unit} {d d' : Deployment}
    (hcheck : check = fault.elim (.ok ()) .error) (hchanges : changes.run d = (.ok (), d')) :
    Mutation.run (attempt check >>= fun _ => changes) d =
      fault.elim (.ok (), d') fun e => (.error e, d) := by
  rw [run_attempt_bind, hcheck]
  cases fault with
  | some e => rfl
  | none => exact hchanges

/-- A call that has a fault fails for it and changes nothing. One that has none takes effect. -/
theorem Deployment.call_eq (d : Deployment) (c : Call) :
    d.call c = c.fault?.elim (.ok (), d.apply c) fun e => (.error e, d) := by
  rw [call]
  cases c with
  | addBeanClasses cs =>
    refine Call.run_checked (checkClasses_eq cs) ?_
    rw [run_forM_change, Deployment.foldl_insert_beanClasses]
    rfl
  | addPackages recursive cs =>
    refine Call.run_checked (checkClasses_eq cs) ?_
    rw [run_forM_change, Deployment.apply, List.foldl_map]
  | enable role cs =>
    refine Call.run_checked (checkClasses_eq cs) ?_
    rw [run_forM fun c d => ?_, Deployment.foldl_enable]
    · rfl
    · cases role <;> rfl
  | configureType c edits => exact Call.run_checked (checkClass_eq c) (run_change _ d)
  | addOverrides os =>
    refine Call.run_checked (checkClasses_eq _) ?_
    rw [run_forM_change, Deployment.foldl_append_overrides]
    rfl
  | configureBean c edits => exact Call.run_checked (checkClass_eq c) (run_change _ d)
  | setProperty key value =>
    rw [Call.perform, run_attempt_bind, Call.fault?, Call.propertyFault?]
    cases hkey : key.isEmpty with
    | true => rfl
    | false =>
      cases hvalue : value.encode with
      | error e => rfl
      | ok v =>
        rw [Deployment.apply, hvalue]
        rfl
  | mergeProperties p =>
    rw [Call.perform, run_attempt_bind, Call.fault?]
    cases hp : p.contains "" with
    | true => rfl
    | false =>
      simp only [Bool.false_eq_true, if_false]
      rw [run_forM_change, Deployment.foldl_insert_properties]
      rfl
  | addExtensions xs => exact run_forM_change _ xs d
  | addBeans bs => exact run_forM_change _ bs d
  | _ => rfl

end BeanContainer
