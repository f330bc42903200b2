import BeanContainer.Lifecycle.Event
import BeanContainer.Lifecycle.Stage
/-!
# The world that containers live in

Builders share loaders, hosts and registries, and what happens to one may be seen by another. A
`World` holds all of them. Builders, environments, registries and leases are numbered in the order
of their creation, and a number is never given out twice.
-/

namespace BeanContainer

/-- Whoever answers scans, and how it can change. -/
inductive Environment where
  /-- An index to which classes can be added at any time. -/
  | indexed (managed : Bool) (index : ClassIndex)
  /-- A host with answers of its own. -/
  | hosted (host : Host)

namespace Environment

/-- The environment as it answers at the moment. -/
def host : Environment → Host
  | .indexed managed index => index.host managed
  | .hosted h => h

/-- Add a class to the index, if there is one. -/
def register (e : IndexedClass) : Environment → Environment
  | .indexed managed index => .indexed managed (index.register e)
  | .hosted h => .hosted h

end Environment

/-- Everything that builders share, and the builders themselves. -/
structure World where
  /-- The serial number to be given out next. -/
  serial : Nat := 1
  closed : List Loader := []
  environments : List Environment := []
  registries : Nat → Registry := fun _ => .empty
  /-- How many registries have been given out. Number 0 is given to every builder. -/
  registryCount : Nat := 1
  /-- Leases that are held by no container; a dropped one is `none`. -/
  leases : List (Option Lease) := []
  stages : List Stage := []
  /-- The bean of every run of a producer. -/
  runs : List BeanId := []
  /-- What extensions and hosts have seen, in order. -/
  history : List Notice := []
  deriving Inhabited

namespace World

/-- The registry that builders use when they are given no other. -/
def globalRegistry : Nat := 0

/-! ### Loaders, environments and extensions -/

/-- A new loader. Its serial number sets it apart from the system loader, too. -/
def openLoader (w : World) (name : String) : World × Loader :=
  ({ w with serial := w.serial + 1 }, ⟨w.serial, name⟩)

def closeLoader (w : World) (l : Loader) : World := { w with closed := l :: w.closed }

def isClosed (w : World) (l : Loader) : Bool := w.closed.contains l

def addEnvironment (w : World) (e : Environment) : World × Nat :=
  ({ w with environments := w.environments ++ [e] }, w.environments.length)

def registerClass (w : World) (environment : Nat) (e : IndexedClass) : World :=
  { w with environments := w.environments.modify environment (Environment.register e) }

def host (w : World) (environment : Nat) : Host :=
  (w.environments[environment]?.map Environment.host).getD .empty

def newExtension (w : World) (name : String) : World × Extension :=
  ({ w with serial := w.serial + 1 }, ⟨w.serial, name⟩)

/-! ### Beans -/

def makeBean (w : World) (d : BeanDefinition) : World × Bean :=
  ({ w with serial := w.serial + 1 }, ⟨.standalone w.serial, d⟩)

/-- Run the production logic of a bean, if it has any. -/
def produce (w : World) (b : Bean) : World × Option (Except String Json) :=
  match b.definition.producer with
  | none => (w, none)
  | some p => ({ w with runs := b.id :: w.runs }, some (p.run (w.runs.count b.id + 1)))

@[simp] theorem stages_produce (w : World) (b : Bean) : (w.produce b).1.stages = w.stages := by
  rw [produce]
  split <;> rfl

@[simp] theorem environments_produce (w : World) (b : Bean) :
    (w.produce b).1.environments = w.environments := by
  rw [produce]
  split <;> rfl

/-! ### Registries and leases -/

def addRegistry (w : World) : World × Nat :=
  ({ w with registryCount := w.registryCount + 1 }, w.registryCount)

def setRegistry (w : World) (r : Nat) (content : Registry) : World :=
  { w with registries := fun n => if n = r then content else w.registries n }

/-- Hold an identifier, unless it is held already; yields the number of the lease. -/
def reserve (w : World) (r : Nat) (id : String) : World × Option Nat :=
  match (w.registries r).reserve? id with
  | none => (w, none)
  | some content =>
    ({ w.setRegistry r content with leases := w.leases ++ [some ⟨r, id⟩] }, some w.leases.length)

def release (w : World) (l : Lease) : World :=
  w.setRegistry l.registry ((w.registries l.registry).release l.id)

@[simp] theorem registries_setRegistry (w : World) (r n : Nat) (content : Registry) :
    (w.setRegistry r content).registries n = if n = r then content else w.registries n := rfl

@[simp] theorem leases_setRegistry (w : World) (r : Nat) (content : Registry) :
    (w.setRegistry r content).leases = w.leases := rfl

@[simp] theorem stages_setRegistry (w : World) (r : Nat) (content : Registry) :
    (w.setRegistry r content).stages = w.stages := rfl

@[simp] theorem leases_release (w : World) (l : Lease) : (w.release l).leases = w.leases := rfl

@[simp] theorem stages_release (w : World) (l : Lease) : (w.release l).stages = w.stages := rfl

/-- A release lets go of one identifier in one registry. -/
theorem mem_held_release {w : World} {l : Lease} {r : Nat} {id : String} :
    id ∈ ((w.release l).registries r).held ↔ id ∈ (w.registries r).held ∧ l ≠ ⟨r, id⟩ := by
  obtain ⟨r', id'⟩ := l
  by_cases hr : r = r'
  · subst hr
    simp [release, Registry.mem_held_release, and_comm, eq_comm]
  · simp [release, hr, eq_comm]

/-- An identifier that has just been reserved and is let go of leaves no trace. -/
theorem release_setRegistry {w : World} {r : Nat} {id : String} {content : Registry}
    (h : (w.registries r).reserve? id = some content) :
    (w.setRegistry r content).release ⟨r, id⟩ = w := by
  have hc : content.release id = w.registries r := Registry.release_of_reserve? h
  have hr : ((w.setRegistry r content).release ⟨r, id⟩).registries = w.registries := by
    funext n
    by_cases hn : n = r
    · subst hn
      simpa [release] using hc
    · simp [release, hn]
  calc (w.setRegistry r content).release ⟨r, id⟩
      = { w with registries := ((w.setRegistry r content).release ⟨r, id⟩).registries } := rfl
    _ = w := by rw [hr]

def dropLease (w : World) (number : Nat) : World :=
  match w.leases[number]?.join with
  | none => w
  | some l => { w.release l with leases := w.leases.set number none }

@[simp] theorem stages_reserve (w : World) (r : Nat) (id : String) :
    (w.reserve r id).1.stages = w.stages := by
  rw [reserve]
  split <;> rfl

@[simp] theorem environments_reserve (w : World) (r : Nat) (id : String) :
    (w.reserve r id).1.environments = w.environments := by
  rw [reserve]
  split <;> rfl

@[simp] theorem stages_dropLease (w : World) (number : Nat) :
    (w.dropLease number).stages = w.stages := by
  rw [dropLease]
  split <;> rfl

@[simp] theorem environments_dropLease (w : World) (number : Nat) :
    (w.dropLease number).environments = w.environments := by
  rw [dropLease]
  split <;> rfl

/-! ### Builders -/

/-- A new builder, with an index of its own in which nothing is registered. -/
def newBuilder (w : World) : World × Nat :=
  let (w, environment) := w.addEnvironment (.indexed false [])
  ({ w with stages := w.stages ++ [.configuring { environment, registry := globalRegistry }] },
    w.stages.length)

/-- What has become of a builder; one that never was is as good as one that failed. -/
def stage (w : World) (b : Nat) : Stage := w.stages[b]?.getD .failed

def setStage (w : World) (b : Nat) (s : Stage) : World := { w with stages := w.stages.set b s }

@[simp] theorem registries_setStage (w : World) (b : Nat) (s : Stage) :
    (w.setStage b s).registries = w.registries := rfl

@[simp] theorem leases_setStage (w : World) (b : Nat) (s : Stage) :
    (w.setStage b s).leases = w.leases := rfl

@[simp] theorem environments_setStage (w : World) (b : Nat) (s : Stage) :
    (w.setStage b s).environments = w.environments := rfl

@[simp] theorem length_stages_setStage (w : World) (b : Nat) (s : Stage) :
    (w.setStage b s).stages.length = w.stages.length := List.length_set

/-- A builder that has not failed is one that was made. -/
theorem lt_length_of_stage_ne_failed {w : World} {b : Nat} (h : w.stage b ≠ .failed) :
    b < w.stages.length := by
  refine Nat.lt_of_not_le fun hb => h ?_
  simp [stage, List.getElem?_eq_none hb]

theorem stage_setStage_self {w : World} {b : Nat} (h : b < w.stages.length) (s : Stage) :
    (w.setStage b s).stage b = s := by
  simp [stage, setStage, h]

/-- A builder that was never made enters no stage. -/
theorem setStage_of_length_le {w : World} {b : Nat} (h : w.stages.length ≤ b) (s : Stage) :
    w.setStage b s = w := by
  simp [setStage, List.set_eq_of_length_le h]

theorem stage_setStage_of_ne {w : World} {b b' : Nat} (h : b' ≠ b) (s : Stage) :
    (w.setStage b s).stage b' = w.stage b' := by
  simp [stage, setStage, List.getElem?_set_ne h.symm]

theorem stage_newBuilder_self (w : World) :
    w.newBuilder.1.stage w.stages.length =
      .configuring { environment := w.environments.length, registry := globalRegistry } := by
  simp [newBuilder, addEnvironment, stage]

theorem stage_newBuilder_of_ne {w : World} {b : Nat} (h : b ≠ w.stages.length) :
    w.newBuilder.1.stage b = w.stage b := by
  simp only [newBuilder, addEnvironment, stage]
  rcases Nat.lt_or_gt_of_ne h with hb | hb
  · rw [List.getElem?_append_left hb]
  · rw [List.getElem?_eq_none (Nat.le_of_lt hb),
      List.getElem?_eq_none (by simpa using Nat.succ_le_of_lt hb)]

@[simp] theorem setStage_stage (w : World) (b : Nat) : w.setStage b (w.stage b) = w := by
  rcases Nat.lt_or_ge b w.stages.length with hb | hb
  · simp [setStage, stage, hb]
  · exact setStage_of_length_le hb _

/-- Make a call on a builder. -/
def call (w : World) (b : Nat) (c : Call) : World × Except BootstrapError Unit :=
  let (result, s) := (w.stage b).call c
  (w.setStage b s, result)

/-- A call that leaves the builder as it is changes nothing at all. -/
theorem call_of_kept {w : World} {b : Nat} {c : Call} {result : Except BootstrapError Unit}
    (h : (w.stage b).call c = (result, w.stage b)) : w.call b c = (w, result) := by
  simp only [call, h, setStage_stage]

section Configuring

variable {w : World} {b : Nat} {d : Deployment} {c : Call}

/-- A call without a fault takes effect as a whole. -/
theorem call_of_fault?_eq_none (hd : w.stage b = .configuring d) (h : c.fault? = none) :
    w.call b c = (w.setStage b (.configuring (d.apply c)), .ok ()) := by
  simp only [call, hd, Stage.call_configuring, h, Option.elim_none]

/-- A call with a fault is refused for it, and nothing changes. -/
theorem call_of_fault? {e : ArgumentError} (hd : w.stage b = .configuring d)
    (h : c.fault? = some e) : w.call b c = (w, .error (.illegalArgument e)) := by
  refine call_of_kept ?_
  rw [hd, Stage.call_configuring, h, Option.elim_some]

end Configuring

/-- A builder that cannot be configured refuses all calls for what has become of it. -/
theorem exists_call_eq_of_used {w : World} {b : Nat} (h : ∀ d, w.stage b ≠ .configuring d) :
    ∃ e, ∀ c, w.call b c = (w, .error (.illegalState e)) := by
  cases hs : w.stage b with
  | configuring d => exact absurd hs (h d)
  | _ => exact ⟨_, fun c => call_of_kept (by rw [hs]; rfl)⟩

/-- A call takes effect as a whole, on a builder that is being configured, or it changes nothing. -/
theorem call_cases (w : World) (b : Nat) (c : Call) :
    (∃ d, w.stage b = .configuring d ∧ c.fault? = none ∧
      w.call b c = (w.setStage b (.configuring (d.apply c)), .ok ())) ∨
    ∃ e, w.call b c = (w, .error e) := by
  by_cases hd : ∃ d, w.stage b = .configuring d
  · obtain ⟨d, hd⟩ := hd
    cases hf : c.fault? with
    | none => exact .inl ⟨d, hd, rfl, call_of_fault?_eq_none hd hf⟩
    | some e => exact .inr ⟨_, call_of_fault? hd hf⟩
  · obtain ⟨e, he⟩ := exists_call_eq_of_used fun d hs => hd ⟨d, hs⟩
    exact .inr ⟨_, he c⟩

@[simp] theorem environments_call (w : World) (b : Nat) (c : Call) :
    (w.call b c).1.environments = w.environments := rfl

@[simp] theorem length_stages_call (w : World) (b : Nat) (c : Call) :
    (w.call b c).1.stages.length = w.stages.length := length_stages_setStage ..

/-! ### History -/

def notify (w : World) (b : Nat) (extensions : List Extension) (e : Event) : World :=
  { w with history := w.history ++ extensions.map fun x => .observed b x e w.registries }

@[simp] theorem registries_notify (w : World) (b : Nat) (xs : List Extension) (e : Event) :
    (w.notify b xs e).registries = w.registries := rfl

@[simp] theorem leases_notify (w : World) (b : Nat) (xs : List Extension) (e : Event) :
    (w.notify b xs e).leases = w.leases := rfl

@[simp] theorem stages_notify (w : World) (b : Nat) (xs : List Extension) (e : Event) :
    (w.notify b xs e).stages = w.stages := rfl

@[simp] theorem environments_notify (w : World) (b : Nat) (xs : List Extension) (e : Event) :
    (w.notify b xs e).environments = w.environments := rfl

@[simp] theorem stage_notify (w : World) (b b' : Nat) (xs : List Extension) (e : Event) :
    (w.notify b xs e).stage b' = w.stage b' := rfl

def recordScans (w : World) (b environment : Nat) (loader : Loader) (scans : List Scan) : World :=
  { w with history := w.history ++ scans.map fun s => .asked b environment loader s }

@[simp] theorem registries_recordScans (w : World) (b env : Nat) (l : Loader) (ss : List Scan) :
    (w.recordScans b env l ss).registries = w.registries := rfl

@[simp] theorem leases_recordScans (w : World) (b env : Nat) (l : Loader) (ss : List Scan) :
    (w.recordScans b env l ss).leases = w.leases := rfl

@[simp] theorem stages_recordScans (w : World) (b env : Nat) (l : Loader) (ss : List Scan) :
    (w.recordScans b env l ss).stages = w.stages := rfl

@[simp] theorem environments_recordScans (w : World) (b env : Nat) (l : Loader) (ss : List Scan) :
    (w.recordScans b env l ss).environments = w.environments := rfl

@[simp] theorem stage_recordScans (w : World) (b b' env : Nat) (l : Loader) (ss : List Scan) :
    (w.recordScans b env l ss).stage b' = w.stage b' := rfl

end World

end BeanContainer
