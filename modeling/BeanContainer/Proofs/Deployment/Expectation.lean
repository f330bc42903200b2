import BeanContainer.Deployment.Model
import BeanContainer.Deployment.Validation
import BeanContainer.Proofs.Deployment.Accumulation
import BeanContainer.Proofs.Discovery.Outcome
/-!
# What is to be expected of a deployment

The problems and the sources that a deployment ought to have, told from the calls that made it and
from what scans find, without any of the lists and indexes that the deployment keeps. They are what
the deployment does have (`Deployment.Accumulates.problems_eq` and `sources_eq`).
-/

namespace BeanContainer

namespace Call

variable (calls : List Call)

/-! ### Scans -/

/-- The packages to be scanned, in the order of the first request, recursively if any request says
so. -/
def packages : List PackageRef :=
  let requests := calls.flatMap requested
  (Keyed.firsts PackageRef.name requests).map fun p =>
    ⟨p.name, requests.any fun q => q.name = p.name && q.recursive⟩

/-- The scans to be asked: packages first, bean archives last. -/
def scans (closed : Bool) : List Scan :=
  if (latest? discovery? calls).getD true && !closed then
    (packages calls).map .package ++ [.archives]
  else []

variable {calls} in
/-- Nothing is scanned if discovery is disabled or the loader is closed. -/
lemma scans_eq_nil {closed : Bool}
    (h : latest? discovery? calls = some false ∨ closed = true) : scans calls closed = [] := by
  rcases h with h | rfl <;> simp [scans, *]

def loader (host : Host) : Loader := (latest? loader? calls).getD host.defaultLoader

/-- The classes that scans find, in the order of the scans. A scan that fails finds none. -/
def found (host : Host) (isClosed : Loader → Bool) : List ClassRef :=
  let loader := loader calls host
  (scans calls (isClosed loader)).flatMap fun scan => (host.reply loader scan).found

/-! ### Problems -/

/-- The problem with a scan, if it fails. -/
def scanProblem? (host : Host) (loader : Loader) (scan : Scan) : Option Problem :=
  match host.reply loader scan with
  | .after _ (.error reason) => some (.scanFailed loader scan reason)
  | _ => none

/-- The classes enabled in a role whose first mention there lacks the marker for it. -/
def markerProblems (role : Role) : List Problem :=
  ((Keyed.firsts ClassRef.id (calls.flatMap (enabled role))).filter fun c =>
    !c.markers.has role).map (.missingMarker role)

/-- The overridden classes of which any override edits a member without a name, in the order of the
first override. -/
def memberProblems : List Problem :=
  let os := calls.flatMap overrides
  ((Keyed.firsts ClassRef.id (os.map TypeOverride.target)).filter fun c =>
    os.any fun o => o.target.id = c.id && o.edits.any fun e => e.target = .member "").map
    .emptyMemberName

/-- The names, if any, that several beans have, in the order of their first use. -/
def nameProblems : List Problem :=
  let entries := (calls.flatMap beans).eraseDupsBy BeanEntry.same
  let names := (entries.filterMap fun e => e.definition.name).filter fun name => !name.isEmpty
  ((Keyed.firsts id names).filter fun name => 1 < names.count name).map .ambiguousBeanName

/-- All problems that do not depend on other containers, in the order in which they are reported. -/
def ownProblems (host : Host) (isClosed : Loader → Bool) : List Problem :=
  let loader := loader calls host
  (if isClosed loader then [.loaderClosed loader] else []) ++
    (scans calls (isClosed loader)).filterMap (scanProblem? host loader) ++
    Role.all.flatMap (markerProblems calls) ++ memberProblems calls ++ nameProblems calls

/-! ### Sources -/

/-- The annotations that overrides give to a class: all edits in the order in which they were
made. -/
def metadata (c : ClassRef) : Option TypeMetadata :=
  let os := (calls.flatMap overrides).filter fun o => o.target.id = c.id
  if os.isEmpty then none else some (({} : TypeMetadata).replay (os.flatMap TypeOverride.edits))

/-- The classes that calls name, then those that were only found, then those that are only
overridden, and after them the beans. -/
def sources (builder : Nat) (found : List ClassRef) : List Source :=
  let named := calls.flatMap named
  let targets := (calls.flatMap overrides).map TypeOverride.target
  let entries := (calls.flatMap beans).eraseDupsBy BeanEntry.same
  (Keyed.firsts ClassRef.id named).map (fun c => .ofClass c .synthetic (metadata calls c)) ++
    ((Keyed.firsts ClassRef.id found).filter fun c => c.id ∉ named.map ClassRef.id).map
      (fun c => .ofClass c .discovered (metadata calls c)) ++
    ((Keyed.firsts ClassRef.id targets).filter fun c =>
      c.id ∉ (named ++ found).map ClassRef.id).map
      (fun c => .ofClass c .override (metadata calls c)) ++
    (entries.mapIdx fun position e => e.bean builder position).map .ofBean

end Call

/-- The deployed classes are those that are mentioned anywhere, each where it is mentioned first. -/
lemma Call.filterMap_class?_sources (calls : List Call) (builder : Nat) (found : List ClassRef) :
    (Call.sources calls builder found).filterMap Source.class? =
      Keyed.firsts ClassRef.id (calls.flatMap Call.named ++ found ++
        (calls.flatMap Call.overrides).map TypeOverride.target) := by
  rw [Keyed.firsts_append, Keyed.firsts_append]
  simp [Call.sources, List.filterMap_append, List.filterMap_map, Function.comp_def, Source.class?]

/-- The classes that are deployed for the given reason: those that calls name, or those that are
only found, or those that are only overridden. -/
def Call.classesFor (calls : List Call) (found : List ClassRef) : Origin → List ClassRef
  | .synthetic => Keyed.firsts ClassRef.id (calls.flatMap named)
  | .discovered => (Keyed.firsts ClassRef.id found).filter fun c =>
    c.id ∉ (calls.flatMap named).map ClassRef.id
  | .override =>
    (Keyed.firsts ClassRef.id ((calls.flatMap overrides).map TypeOverride.target)).filter fun c =>
      c.id ∉ (calls.flatMap named ++ found).map ClassRef.id

/-- The class of a source that is deployed for the given reason. -/
def Source.classFor? (origin : Origin) : Source → Option ClassRef
  | .ofClass c o _ => if o = origin then some c else none
  | .ofBean _ => none

lemma Call.filterMap_classFor?_sources (calls : List Call) (builder : Nat) (found : List ClassRef)
    (origin : Origin) :
    (Call.sources calls builder found).filterMap (Source.classFor? origin) =
      Call.classesFor calls found origin := by
  cases origin <;>
    simp [Call.sources, Call.classesFor, List.filterMap_append, List.filterMap_map,
      Function.comp_def, Source.classFor?]

/-- The failures of a host are the problems with its scans. -/
lemma Host.map_failures_findings (host : Host) (loader : Loader) (scans : List Scan) :
    (host.findings loader scans).failures.map (fun f => Problem.scanFailed loader f.1 f.2) =
      scans.filterMap (Call.scanProblem? host loader) := by
  rw [Host.findings, List.map_flatMap, List.filterMap_eq_flatMap_toList]
  congr 1
  funext scan
  rw [Call.scanProblem?]
  rcases host.reply loader scan with ⟨n, classes | reason⟩ | _ <;> rfl

namespace Deployment.Accumulates

variable {d : Deployment} {calls : List Call}

lemma packages_eq (h : d.Accumulates calls) : d.packages = Call.packages calls := by
  rw [h.packages, Keyed.gather_eq_map fun p qs => ⟨p.name, qs.any PackageRef.recursive⟩]
  · simp only [Call.packages, List.any_filter]
  · intro p qs
    rfl
  · intro p
    simp
  · intro p qs q
    simp [PackageRef.union]

/-- What an override is merged with are all overrides of its class. -/
lemma mergedOverrides_eq (h : d.Accumulates calls) :
    d.mergedOverrides =
      (Keyed.firsts (fun o => o.target.id) (calls.flatMap Call.overrides)).map fun o =>
        ⟨o.target, ((calls.flatMap Call.overrides).filter fun o' =>
          o'.target.id = o.target.id).flatMap TypeOverride.edits⟩ := by
  rw [mergedOverrides, TypeOverride.merge, h.overrides,
    Keyed.gather_eq_map fun o os => ⟨o.target, os.flatMap TypeOverride.edits⟩]
  · intro o os
    rfl
  · intro o
    simp
  · intro o os o'
    simp [TypeOverride.append, TypeOverride.edit]

lemma map_target_mergedOverrides (h : d.Accumulates calls) :
    d.mergedOverrides.map TypeOverride.target =
      Keyed.firsts ClassRef.id ((calls.flatMap Call.overrides).map TypeOverride.target) := by
  rw [h.mergedOverrides_eq, List.map_map, Keyed.firsts_map]
  rfl

/-! ### Problems -/

lemma enablementProblems_eq (h : d.Accumulates calls) :
    d.enablementProblems = Role.all.flatMap (Call.markerProblems calls) := by
  simp only [enablementProblems, h.enablement]
  rfl

lemma overrideProblems_eq (h : d.Accumulates calls) :
    d.overrideProblems = Call.memberProblems calls := by
  simp only [overrideProblems, Call.memberProblems, h.mergedOverrides_eq, Keyed.firsts_map,
    List.filter_map, List.map_map]
  have hany : ∀ o : TypeOverride, TypeOverride.hasEmptyMember
      ⟨o.target, ((calls.flatMap Call.overrides).filter fun o' =>
        o'.target.id = o.target.id).flatMap TypeOverride.edits⟩ =
      (calls.flatMap Call.overrides).any fun o' =>
        decide (o'.target.id = o.target.id) && o'.edits.any fun e => e.target = .member "" :=
    fun o => by
      simp only [TypeOverride.hasEmptyMember, List.any_flatMap, List.any_filter]
      rfl
  congr 1
  exact List.filter_congr fun o _ => hany o

lemma nameProblems_eq (h : d.Accumulates calls) :
    d.nameProblems = Call.nameProblems calls := by
  simp only [nameProblems, beanNames, h.beans, Keyed.gather_first]
  rfl

/-- The problems of a deployment are those that are to be expected. -/
theorem problems_eq (h : d.Accumulates calls) (host : Host) (isClosed : Loader → Bool) :
    let loader := Call.loader calls host
    d.problems loader (isClosed loader)
        (host.findings loader (Call.scans calls (isClosed loader))) =
      Call.ownProblems calls host isClosed := by
  simp only [problems, Call.ownProblems, host.map_failures_findings, h.enablementProblems_eq,
    h.overrideProblems_eq, h.nameProblems_eq]

/-! ### Sources -/

lemma metadataOf_eq (h : d.Accumulates calls) (c : ClassRef) :
    d.metadataOf c = Call.metadata calls c := by
  rw [metadataOf, h.mergedOverrides_eq, List.find?_map, Option.map_map, Call.metadata]
  generalize calls.flatMap Call.overrides = os
  have hfind : (Keyed.firsts (fun o => o.target.id) os).find? (fun o => o.target == c) =
      os.find? fun o => decide (o.target.id = c.id) := Keyed.find?_firsts os c.id
  simp only [Function.comp_def, hfind]
  cases ho : os.find? fun o => decide (o.target.id = c.id) with
  | none =>
    have hnil : os.filter (fun o => o.target.id = c.id) = [] :=
      List.filter_eq_nil_iff.2 (List.find?_eq_none.1 ho)
    simp [hnil]
  | some o =>
    have hid : o.target.id = c.id := by simpa using List.find?_some ho
    have hmem : o ∈ os.filter fun o => o.target.id = c.id :=
      List.mem_filter.2 ⟨List.mem_of_find?_eq_some ho, by simpa using hid⟩
    have hne : (os.filter fun o => o.target.id = c.id).isEmpty = false := by
      simpa using List.ne_nil_of_mem hmem
    simp only [Option.map_some, TypeOverride.metadata, hid, hne]
    rfl

/-- The sources of a deployment are those that are to be expected. -/
theorem sources_eq (h : d.Accumulates calls) (builder : Nat) (found : List ClassRef) :
    d.sources builder found = Call.sources calls builder found := by
  have htargets : d.mergedOverrides.map (fun o => (o.target, Origin.override)) =
      (Keyed.firsts ClassRef.id ((calls.flatMap Call.overrides).map TypeOverride.target)).map
        (·, Origin.override) := by
    rw [← h.map_target_mergedOverrides, List.map_map]
    rfl
  have hkey : ∀ (origin : Origin) (cs : List ClassRef),
      Keyed.firsts (fun m : ClassRef × Origin => m.1.id) (cs.map (·, origin)) =
        (Keyed.firsts ClassRef.id cs).map (·, origin) := fun origin cs => Keyed.firsts_map _ cs
  have hnamed : ∀ k, k ∈ (Keyed.firsts ClassRef.id (calls.flatMap Call.named)).map (fun c => c.id) ↔
      k ∈ (calls.flatMap Call.named).map fun c => c.id := fun k => Keyed.mem_map_firsts
  rw [sources, classSources, Keyed.gather_first, mentions, Keyed.firsts_append,
    Keyed.firsts_append, htargets, h.beanClasses, hkey, hkey, hkey, Keyed.firsts_firsts,
    Keyed.firsts_firsts, builtBeans, h.beans]
  simp only [h.metadataOf_eq, List.map_append, List.filter_map, List.map_map, Function.comp_def,
    Call.sources, List.mem_append, hnamed]

end Deployment.Accumulates

end BeanContainer
