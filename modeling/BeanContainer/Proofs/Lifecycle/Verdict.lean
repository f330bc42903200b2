import BeanContainer.Proofs.Deployment.Expectation
import BeanContainer.Proofs.Lifecycle.Pursuit
/-!
# The verdict on a deployment

A start that comes to its end reports exactly the problems that are to be expected from the calls on
its builder, the answers of its host and the identifiers in use, and succeeds exactly if there are
none. It makes no difference how often it has been polled and what has happened in between, except
that the identifier is looked at in the world of the last poll.
-/

namespace BeanContainer

namespace Call

variable (calls : List Call)

/-- The problem with the identifier, if it is in use in the registry. -/
def identifierProblems (registries : Nat → Registry) : List Problem :=
  let registry := (latest? registryNumber? calls).getD World.globalRegistry
  match (latest? containerId? calls).join with
  | some id => if (registries registry).inUse id then [.duplicateContainerId id] else []
  | none => []

/-- All problems, in the order in which they are reported. -/
def problems (host : Host) (isClosed : Loader → Bool) (registries : Nat → Registry) :
    List Problem :=
  ownProblems calls host isClosed ++ identifierProblems calls registries

end Call

namespace World

variable {w : World} {d : Deployment} {calls : List Call}

/-! ### What a start is about -/

lemma loader_startOf (h : d.Accumulates calls) (params : Properties) :
    (w.startOf d params).loader = Call.loader calls (w.host d.environment) := by
  rw [Call.loader, ← h.loader]
  rfl

lemma closed_startOf (h : d.Accumulates calls) (params : Properties) :
    (w.startOf d params).closed = w.isClosed (Call.loader calls (w.host d.environment)) := by
  rw [← loader_startOf h params]
  rfl

lemma scans_startOf (h : d.Accumulates calls) (params : Properties) :
    (w.startOf d params).scans =
      Call.scans calls (w.isClosed (Call.loader calls (w.host d.environment))) := by
  rw [← closed_startOf h params, Call.scans, ← h.discovery, ← h.packages_eq]
  rfl

/-- A start whose scans have been answered has the problems that are to be expected. -/
lemma problems_startOf (h : d.Accumulates calls) (params : Properties)
    (registries : Nat → Registry) :
    let s := w.startOf d params
    s.problems ((w.host d.environment).findings s.loader s.scans)
        (registries s.deployment.registry) =
      Call.problems calls (w.host d.environment) w.isClosed registries := by
  intro s
  have hown : s.ownProblems ((w.host d.environment).findings s.loader s.scans) =
      Call.ownProblems calls (w.host d.environment) w.isClosed := by
    rw [Bootstrap.ownProblems, loader_startOf h, closed_startOf h, scans_startOf h]
    exact h.problems_eq _ _
  have hid : s.identifierProblems (registries s.deployment.registry) =
      Call.identifierProblems calls registries := by
    have hs : s.deployment = d := rfl
    simp only [Bootstrap.identifierProblems, Call.identifierProblems, hs, h.containerId,
      h.registry, Registry.inUse_iff]
    rfl
  rw [Bootstrap.problems, Call.problems, hown, hid]

end World

/-- A start that comes to its end reports exactly the problems that are to be expected, in the order
in which they are, and succeeds exactly if there are none. -/
theorem verdict_of_start {before : List Step} {b : Nat} {params : Properties} {d : Deployment}
    {w : World} {outcome : Except BootstrapError Model}
    (hd : (({} : World).run before).1.stage b = .configuring d)
    (hm : ((({} : World).run before).1.host d.environment).managed = false)
    (hw : (({} : World).run before).1.InProgress b params w)
    (hr : (w.poll b params).2 = .ready outcome) :
    let w₀ := (({} : World).run before).1
    let calls := acceptedCalls b before (({} : World).run before).2
    let problems := Call.problems calls (w₀.host d.environment) w₀.isClosed w.registries
    ((∃ model, outcome = .ok model) ↔ problems = []) ∧
      (problems ≠ [] → outcome = .error (.definition problems)) := by
  intro w₀ calls problems
  have h : d.Accumulates calls := World.accumulates_run hd
  obtain ⟨asked, hfin⟩ := hw.progress?_of_ready hd hm hr
  have hp : _ = problems := World.problems_startOf h params w.registries
  by_cases hnil : problems = []
  · rw [World.poll_of_eq_nil hfin (hp.trans hnil)] at hr
    obtain rfl := PollResult.ready.inj hr
    exact ⟨iff_of_true ⟨_, rfl⟩ hnil, fun hne => absurd hnil hne⟩
  · rw [World.poll_of_ne_nil hfin (hp.trans_ne hnil)] at hr
    obtain rfl := PollResult.ready.inj hr
    refine ⟨iff_of_false ?_ hnil, fun _ => ?_⟩
    · rintro ⟨model, hok⟩
      cases hok
    · exact congrArg (fun ps => Except.error (BootstrapError.definition ps)) hp

/-- A builder with an interceptor that is none and an override of a member without a name. Its host
is asked for bean archives and fails after one poll in vain, and its identifier is in use. -/
def faultyStart : List Step :=
  [.addEnvironment (.hosted { reply := fun _ _ => .after 1 (.error "out of reach") }), .newBuilder,
    .call 0 (.setEnvironment 0), .call 0 (.setContainerId "orders"),
    .call 0 (.enable .interceptor [⟨⟨"app::Audit", .system⟩, {}⟩]),
    .call 0 (.configureType ⟨⟨"app::Order", .system⟩, {}⟩ [.removeAll (.member "")]),
    .reserve 0 "orders"]

theorem verdict_of_start_faultyStart :
    ∃ d w outcome, (({} : World).run faultyStart).1.stage 0 = .configuring d ∧
      ((({} : World).run faultyStart).1.host d.environment).managed = false ∧
      (({} : World).run faultyStart).1.InProgress 0 ∅ w ∧
      (w.poll 0 ∅).2 = .ready outcome ∧
      outcome = .error (.definition
        [.scanFailed .system .archives "out of reach",
          .missingMarker .interceptor ⟨⟨"app::Audit", .system⟩, {}⟩,
          .emptyMemberName ⟨⟨"app::Order", .system⟩, {}⟩, .duplicateContainerId "orders"]) := by
  have hd : (({} : World).run faultyStart).1.stage 0 = .configuring _ := rfl
  have hw : (({} : World).run faultyStart).1.InProgress 0 ∅
      ((({} : World).run faultyStart).1.run [.poll 0 ∅]).1 := .inr ⟨[], _, _, rfl, rfl⟩
  have hne := (verdict_of_start hd rfl hw rfl).2
  exact ⟨_, _, _, hd, rfl, hw, rfl, hne nofun⟩

end BeanContainer
