import BeanContainer.Deployment.Model
import BeanContainer.Deployment.Validation
import BeanContainer.Proofs.Deployment.Accumulation
/-!
# Deployments without markers

References to one class may carry different markers. A reference is plain if it carries none, and
`plain` takes the markers off every reference in a value: two values that are equal when they are
plain differ in markers at most.

Every operation on deployments commutes with `plain`, and so does everything that can be looked up
in a model. The one exception is the look at the markers of the classes that are enabled
(`Deployment.enablementProblems`).
-/

namespace BeanContainer

/-! ### References -/

namespace ClassRef

/-- A reference to the same class without markers. -/
def plain (c : ClassRef) : ClassRef := ⟨c.id, {}⟩

/-- References are equal when plain exactly if they refer to the same class. -/
lemma plain_eq_plain_iff {c d : ClassRef} : c.plain = d.plain ↔ c.id = d.id := by simp [plain]

lemma map_id_map_plain (cs : List ClassRef) : (cs.map plain).map id = cs.map id := by
  rw [List.map_map]
  rfl

lemma contains_map_plain (cs : List ClassRef) (c : ClassRef) :
    (cs.map plain).contains c.plain = cs.contains c := by
  rw [List.contains_map, List.contains_eq_any_beq]
  rfl

end ClassRef

@[simp] lemma PackageRef.ofClass_plain (c : ClassRef) (recursive : Bool) :
    PackageRef.ofClass c.plain recursive = PackageRef.ofClass c recursive := rfl

/-! ### Lists of classes -/

namespace ClassList

def plain (l : ClassList) : ClassList :=
  ⟨l.toList.map ClassRef.plain, by rw [ClassRef.map_id_map_plain]; exact l.nodup⟩

@[simp] lemma toList_plain (l : ClassList) : l.plain.toList = l.toList.map ClassRef.plain := rfl

lemma plain_extend (l : ClassList) (cs : List ClassRef) :
    (l.extend cs).plain = l.plain.extend (cs.map ClassRef.plain) := by
  apply ClassList.ext
  rw [toList_plain, toList_extend, toList_extend, toList_plain, eq_comm]
  exact Keyed.putAll_map (fun _ => rfl) (fun _ _ => rfl) l.toList cs

end ClassList

namespace Enablement

def plain (e : Enablement) : Enablement where
  interceptors := e.interceptors.plain
  decorators := e.decorators.plain
  alternatives := e.alternatives.plain
  stereotypes := e.stereotypes.plain

lemma get_plain (e : Enablement) (role : Role) : e.plain.get role = (e.get role).plain := by
  cases role <;> rfl

lemma plain_extend (e : Enablement) (role : Role) (cs : List ClassRef) :
    (e.extend role cs).plain = e.plain.extend role (cs.map ClassRef.plain) := by
  cases role <;> simp [plain, extend, ClassList.plain_extend]

end Enablement

/-! ### Overrides and beans -/

namespace TypeOverride

def plain (o : TypeOverride) : TypeOverride := { o with target := o.target.plain }

lemma merge_map_plain (os : List TypeOverride) : merge (os.map plain) = (merge os).map plain :=
  Keyed.putAll_map (fun _ => rfl) (fun _ _ => rfl) [] os

end TypeOverride

def BeanEdit.plain : BeanEdit → BeanEdit
  | .addType c => .addType c.plain
  | e => e

namespace BeanDefinition

def plain (d : BeanDefinition) : BeanDefinition :=
  { d with
    implementation := d.implementation.plain
    types := d.types.map ClassRef.plain
    implementation_mem := List.mem_map_of_mem d.implementation_mem }

lemma plain_ofClass (c : ClassRef) : (ofClass c).plain = ofClass c.plain := rfl

lemma plain_apply (d : BeanDefinition) (e : BeanEdit) :
    (d.apply e).plain = d.plain.apply e.plain := by
  cases e with
  | addType c =>
    simp only [apply, BeanEdit.plain, plain, ClassRef.contains_map_plain]
    split
    · rfl
    · simp
  | _ => rfl

lemma plain_edit (d : BeanDefinition) (edits : List BeanEdit) :
    (d.edit edits).plain = d.plain.edit (edits.map BeanEdit.plain) := by
  induction edits generalizing d with
  | nil => rfl
  | cons e es ih => rw [edit_cons, ih, plain_apply, List.map_cons, edit_cons]

end BeanDefinition

def Bean.plain (b : Bean) : Bean := { b with definition := b.definition.plain }

namespace BeanEntry

def plain : BeanEntry → BeanEntry
  | .configured d => .configured d.plain
  | .ready b => .ready b.plain

@[simp] lemma name_definition_plain (e : BeanEntry) :
    e.plain.definition.name = e.definition.name := by
  cases e <;> rfl

lemma bean_plain (e : BeanEntry) (builder position : Nat) :
    e.plain.bean builder position = (e.bean builder position).plain := by
  cases e <;> rfl

lemma same_plain (e e' : BeanEntry) : e.plain.same e'.plain = e.same e' := by
  cases e <;> cases e' <;> rfl

lemma addTo_map_plain (entries : List BeanEntry) (e : BeanEntry) :
    addTo (entries.map plain) e.plain = (addTo entries e).map plain := by
  have hany : (entries.map plain).any e.plain.same = entries.any e.same := by
    rw [List.any_map]
    congr 1
    funext e'
    exact e.same_plain e'
  rw [addTo, hany, addTo]
  split
  · rfl
  · rw [List.map_append, List.map_singleton]

lemma foldl_addTo_map_plain (entries added : List BeanEntry) :
    (added.map plain).foldl addTo (entries.map plain) = (added.foldl addTo entries).map plain := by
  induction added generalizing entries with
  | nil => rfl
  | cons e es ih => rw [List.map_cons, List.foldl_cons, addTo_map_plain, ih, List.foldl_cons]

end BeanEntry

/-! ### Calls -/

namespace Call

def plain : Call → Call
  | .addBeanClasses cs => .addBeanClasses (cs.map ClassRef.plain)
  | .addPackages recursive cs => .addPackages recursive (cs.map ClassRef.plain)
  | .enable role cs => .enable role (cs.map ClassRef.plain)
  | .configureType c edits => .configureType c.plain edits
  | .addOverrides os => .addOverrides (os.map TypeOverride.plain)
  | .configureBean c edits => .configureBean c.plain (edits.map BeanEdit.plain)
  | .addBeans bs => .addBeans (bs.map Bean.plain)
  | c => c

lemma classFault?_map_plain (cs : List ClassRef) :
    classFault? (cs.map ClassRef.plain) = classFault? cs := by
  rw [classFault?, List.any_map]
  rfl

/-- Whether a call is acceptable does not depend on markers. -/
lemma fault?_plain (c : Call) : c.plain.fault? = c.fault? := by
  cases c with
  | addBeanClasses cs => exact classFault?_map_plain cs
  | addPackages recursive cs => exact classFault?_map_plain cs
  | enable role cs => exact classFault?_map_plain cs
  | addOverrides os =>
    have htargets : (os.map TypeOverride.plain).map TypeOverride.target =
        (os.map TypeOverride.target).map ClassRef.plain := by
      rw [List.map_map, List.map_map]
      rfl
    simp only [plain, fault?, htargets, classFault?_map_plain]
  | _ => rfl

end Call

namespace Deployment

def plain (d : Deployment) : Deployment :=
  { d with
    beanClasses := d.beanClasses.plain
    overrides := d.overrides.map TypeOverride.plain
    enablement := d.enablement.plain
    beans := d.beans.map BeanEntry.plain }

/-- The effect of a call goes along with leaving out the markers. -/
theorem plain_apply (d : Deployment) (c : Call) : (d.apply c).plain = d.plain.apply c.plain := by
  cases c with
  | addBeanClasses cs => simp [apply, plain, Call.plain, ClassList.plain_extend]
  | addPackages recursive cs =>
    simp [apply, plain, Call.plain, foldl_requestPackage, Function.comp_def]
  | enable role cs =>
    cases role <;>
      simp [apply, plain, Call.plain, enable, Enablement.plain_extend, ClassList.plain_extend]
  | addExtensions xs => simp [apply, plain, Call.plain, foldl_addExtension]
  | setProperty key value =>
    simp only [apply, Call.plain]
    split <;> rfl
  | configureType c edits => simp [apply, plain, Call.plain, TypeOverride.plain]
  | addOverrides os => simp [apply, plain, Call.plain]
  | configureBean c edits =>
    simp [apply, plain, Call.plain, BeanEntry.plain, BeanDefinition.plain_edit,
      BeanDefinition.plain_ofClass]
  | addBeans bs =>
    have hready : (bs.map Bean.plain).map BeanEntry.ready =
        (bs.map BeanEntry.ready).map BeanEntry.plain := by
      rw [List.map_map, List.map_map]
      rfl
    simp only [apply, Call.plain]
    rw [foldl_addBean, foldl_addBean d.plain, beans_foldl_addBean, beans_foldl_addBean, hready]
    simp only [plain, BeanEntry.foldl_addTo_map_plain]
  | _ => rfl

end Deployment

/-! ### Sources -/

namespace Source

def plain : Source → Source
  | .ofClass c origin metadata => .ofClass c.plain origin metadata
  | .ofBean b => .ofBean b.plain

@[simp] lemma isSome_class?_plain (s : Source) : s.plain.class?.isSome = s.class?.isSome := by
  cases s <;> rfl

@[simp] lemma beanName?_plain (s : Source) : s.plain.beanName? = s.beanName? := by
  cases s <;> rfl

/-- Markers make no difference to what is selected, be they those of the source or of the query. -/
@[simp] lemma isSelectedBy_plain (s : Source) (c : ClassRef) :
    s.plain.isSelectedBy c.plain = s.isSelectedBy c := by
  cases s with
  | ofClass d origin metadata => rfl
  | ofBean b => exact ClassRef.contains_map_plain b.types c

end Source

namespace Deployment

lemma mergedOverrides_plain (d : Deployment) :
    d.plain.mergedOverrides = d.mergedOverrides.map TypeOverride.plain :=
  TypeOverride.merge_map_plain d.overrides

lemma metadataOf_plain (d : Deployment) (c : ClassRef) :
    d.plain.metadataOf c.plain = d.metadataOf c := by
  rw [metadataOf, mergedOverrides_plain, List.find?_map, Option.map_map]
  rfl

lemma mentions_plain (d : Deployment) (found : List ClassRef) :
    d.plain.mentions (found.map ClassRef.plain) =
      (d.mentions found).map fun m => (m.1.plain, m.2) := by
  simp only [mentions, mergedOverrides_plain, List.map_append, List.map_map]
  simp [plain, Function.comp_def, TypeOverride.plain]

lemma classSources_plain (d : Deployment) (found : List ClassRef) :
    d.plain.classSources (found.map ClassRef.plain) = (d.classSources found).map Source.plain := by
  have hgather : Keyed.gather (fun m : ClassRef × Origin => m.1.id) Keyed.first
      ((d.mentions found).map fun m => (m.1.plain, m.2)) =
      (Keyed.gather (fun m => m.1.id) Keyed.first (d.mentions found)).map
        fun m => (m.1.plain, m.2) :=
    Keyed.putAll_map (fun _ => rfl) (fun _ _ => rfl) [] _
  rw [classSources, mentions_plain, hgather, List.map_map, classSources, List.map_map]
  refine List.map_congr_left fun m _ => ?_
  simp only [Function.comp_apply, metadataOf_plain, Source.plain]

lemma builtBeans_plain (d : Deployment) (builder : Nat) :
    d.plain.builtBeans builder = (d.builtBeans builder).map Bean.plain := by
  apply List.ext_getElem?
  intro i
  simp [builtBeans, plain, Function.comp_def, BeanEntry.bean_plain]

/-- The sources of a deployment go along with leaving out the markers. -/
theorem sources_plain (d : Deployment) (builder : Nat) (found : List ClassRef) :
    d.plain.sources builder (found.map ClassRef.plain) =
      (d.sources builder found).map Source.plain := by
  rw [sources, classSources_plain, builtBeans_plain, sources, List.map_append, List.map_map,
    List.map_map]
  rfl

end Deployment

/-! ### Problems -/

def Problem.plain : Problem → Problem
  | .missingMarker role c => .missingMarker role c.plain
  | .emptyMemberName c => .emptyMemberName c.plain
  | p => p

namespace Deployment

lemma overrideProblems_plain (d : Deployment) :
    d.plain.overrideProblems = d.overrideProblems.map Problem.plain := by
  rw [overrideProblems, mergedOverrides_plain, List.filter_map, List.map_map, overrideProblems,
    List.map_map]
  rfl

lemma nameProblems_plain (d : Deployment) : d.plain.nameProblems = d.nameProblems := by
  have hnames : d.plain.beanNames = d.beanNames := by
    simp [beanNames, plain, List.filterMap_map]
  rw [nameProblems, hnames, nameProblems]

/-- Deployments that differ in markers at most, and not in those of enabled classes, have the same
problems. -/
theorem map_plain_problems_congr {d d' : Deployment} (h : d.plain = d'.plain)
    (henabled : ∀ role, d.enablement.get role = d'.enablement.get role) (loader : Loader)
    (closed : Bool) {f f' : Findings} (hf : f.failures = f'.failures) :
    (d.problems loader closed f).map Problem.plain =
      (d'.problems loader closed f').map Problem.plain := by
  have henablement : d.enablementProblems = d'.enablementProblems := by
    simp only [enablementProblems, henabled]
  have hoverrides : d.overrideProblems.map Problem.plain =
      d'.overrideProblems.map Problem.plain := by
    rw [← overrideProblems_plain, h, overrideProblems_plain]
  have hnames : d.nameProblems = d'.nameProblems := by
    rw [← nameProblems_plain, h, nameProblems_plain]
  simp only [problems, List.map_append, hf, henablement, hoverrides, hnames]

end Deployment

/-! ### Models -/

namespace Model

def plain (m : Model) : Model :=
  { m with sources := m.sources.map Source.plain, enablement := m.enablement.plain }

lemma plain_selectAll (m : Model) (c : ClassRef) :
    (m.selectAll c).map Source.plain = m.plain.selectAll c.plain := by
  simp [selectAll, plain, List.filter_map, Function.comp_def]

lemma plain_select (m : Model) (c : ClassRef) :
    (m.select c).map Source.plain = m.plain.select c.plain := by
  simp only [select, ← plain_selectAll, List.find?_map, List.head?_map, Function.comp_def,
    Source.isSome_class?_plain]
  cases (m.selectAll c).find? fun s => s.class?.isSome <;> rfl

lemma plain_beansNamed (m : Model) (name : String) :
    (m.beansNamed name).map Source.plain = m.plain.beansNamed name := by
  simp [beansNamed, plain, List.filter_map, Function.comp_def]

end Model

lemma Deployment.plain_model (d : Deployment) (params : Properties) (loader : Loader)
    (sources : List Source) :
    (d.model params loader sources).plain =
      d.plain.model params loader (sources.map Source.plain) := rfl

end BeanContainer
