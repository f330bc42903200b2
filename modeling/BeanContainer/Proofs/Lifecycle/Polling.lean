import BeanContainer.Lifecycle.Run
import Mathlib.Tactic.Lemma
import Mathlib.Tactic.Set
/-!
# What a poll can do

`World.progress?` is the part of a poll that concerns the discovery alone: which start the poll goes
on with, which scans it asks, and how far the discovery gets. `PollRule` lists everything a poll can
come to, one rule for each way, and `PollRule.of_poll` says that there is no other. What is proved
about polls elsewhere goes through these rules.

A start that is refused holds its identifier for a moment, between the reservation and the look at
the other problems. The rules do not show that moment: what is reserved is let go of in the same
step, and the registries are as they were (`World.conclude_of_ne_nil`).
-/

namespace BeanContainer

/-! ### The problems of a start -/

namespace Bootstrap

/-- The problem with the identifier, if it is held in the registry. -/
def identifierProblems (s : Bootstrap) (registry : Registry) : List Problem :=
  match s.deployment.containerId with
  | some id => if id ∈ registry.held then [.duplicateContainerId id] else []
  | none => []

/-- The problems that do not depend on other containers. -/
def ownProblems (s : Bootstrap) (f : Findings) : List Problem :=
  s.deployment.problems s.loader s.closed f

/-- Every problem of a start, given what is held in its registry when all scans are answered. -/
def problems (s : Bootstrap) (f : Findings) (registry : Registry) : List Problem :=
  s.ownProblems f ++ s.identifierProblems registry

lemma lease?_eq_some_iff {s : Bootstrap} {l : Lease} :
    s.lease? = some l ↔
      s.deployment.containerId = some l.id ∧ s.deployment.registry = l.registry := by
  obtain ⟨r, id⟩ := l
  simp only [lease?, Option.map_eq_some_iff, Lease.mk.injEq]
  constructor
  · rintro ⟨id', h, hr, rfl⟩
    exact ⟨h, hr⟩
  · rintro ⟨h, hr⟩
    exact ⟨id, h, hr, rfl⟩

lemma lease?_eq_none_iff {s : Bootstrap} : s.lease? = none ↔ s.deployment.containerId = none := by
  simp [lease?]

lemma identifierProblems_of_none {s : Bootstrap} (h : s.lease? = none) (registry : Registry) :
    s.identifierProblems registry = [] := by
  simp [identifierProblems, lease?_eq_none_iff.1 h]

lemma identifierProblems_of_some {s : Bootstrap} {l : Lease} (h : s.lease? = some l)
    (registry : Registry) :
    s.identifierProblems registry =
      if l.id ∈ registry.held then [.duplicateContainerId l.id] else [] := by
  simp [identifierProblems, (lease?_eq_some_iff.1 h).1]

/-- A start without problems finds its identifier free. -/
lemma free_of_problems_eq_nil {s : Bootstrap} {f : Findings} {l : Lease}
    {registries : Nat → Registry}
    (h : s.problems f (registries s.deployment.registry) = []) (hl : s.lease? = some l) :
    l.id ∉ (registries l.registry).held := by
  intro hh
  obtain ⟨-, hid⟩ := List.append_eq_nil_iff.1 h
  rw [identifierProblems_of_some hl, (lease?_eq_some_iff.1 hl).2, if_pos hh] at hid
  cases hid

end Bootstrap

/-- The registry of a builder that has not been used up. -/
def Stage.registryNumber? : Stage → Option Nat
  | .configuring d => some d.registry
  | .bootstrapping s _ => some s.deployment.registry
  | _ => none

namespace World

/-- A builder that can be configured is one that was made. -/
lemma lt_length_of_configuring {w : World} {b : Nat} {d : Deployment}
    (h : w.stage b = .configuring d) : b < w.stages.length :=
  lt_length_of_stage_ne_failed (by simp [h])

/-! ### Claiming an identifier -/

/-- The world in which a lease is held, if it was not before. -/
def hold (w : World) (l : Lease) : World :=
  w.setRegistry l.registry
    (((w.registries l.registry).reserve? l.id).getD (w.registries l.registry))

@[simp] lemma leases_hold (w : World) (l : Lease) : (w.hold l).leases = w.leases := rfl

@[simp] lemma stages_hold (w : World) (l : Lease) : (w.hold l).stages = w.stages := rfl

@[simp] lemma environments_hold (w : World) (l : Lease) :
    (w.hold l).environments = w.environments := rfl

/-- Holding a lease holds its identifier in its registry, in addition to what is held already. -/
lemma mem_held_hold {w : World} {l : Lease} {r : Nat} {id : String} :
    id ∈ ((w.hold l).registries r).held ↔ id ∈ (w.registries r).held ∨ l = ⟨r, id⟩ := by
  obtain ⟨r', id'⟩ := l
  by_cases hr : r = r'
  · subst hr
    simp only [hold, registries_setRegistry, if_true, Lease.mk.injEq, true_and]
    cases h : (w.registries r).reserve? id' with
    | none =>
      have hid := Registry.reserve?_eq_none_iff.1 h
      simp only [Option.getD_none]
      refine ⟨Or.inl, ?_⟩
      rintro (h | rfl)
      · exact h
      · exact hid
    | some content =>
      rw [Option.getD_some, (Registry.held_of_reserve? h).2, List.mem_cons, or_comm]
      exact or_congr_right eq_comm
  · simp [hold, hr, Ne.symm hr]

lemma claim_of_none {w : World} {s : Bootstrap} (h : s.lease? = none) :
    w.claim s = (w, .ok none) := by
  simp [claim, h]

lemma claim_of_held {w : World} {s : Bootstrap} {l : Lease} (h : s.lease? = some l)
    (hl : l.id ∈ (w.registries l.registry).held) :
    w.claim s = (w, .error (.duplicateContainerId l.id)) := by
  simp [claim, h, Registry.reserve?_eq_none_iff.2 hl]

/-- Claiming an identifier that is free holds it, and letting go of it undoes the claim. -/
lemma claim_of_free {w : World} {s : Bootstrap} {l : Lease} (h : s.lease? = some l)
    (hl : l.id ∉ (w.registries l.registry).held) :
    w.claim s = (w.hold l, .ok (some l)) ∧ (w.hold l).release l = w := by
  cases hc : (w.registries l.registry).reserve? l.id with
  | none => exact absurd (Registry.reserve?_eq_none_iff.1 hc) hl
  | some content =>
    have hw : w.hold l = w.setRegistry l.registry content := by simp [hold, hc]
    exact ⟨by simp [claim, h, hc, hw], by rw [hw]; exact release_setRegistry hc⟩

/-! ### The end of a start -/

/-- A start with problems leaves nothing behind but the news of its sources. -/
lemma conclude_of_ne_nil {w : World} {b : Nat} {s : Bootstrap} {f : Findings}
    (h : s.problems f (w.registries s.deployment.registry) ≠ []) :
    w.conclude b s f =
      ((w.notify b s.deployment.extensions (.afterBeanDiscovery (s.sources b f))).setStage b
          .failed,
        .ready (.error
          (.definition (s.problems f (w.registries s.deployment.registry))))) := by
  set v := w.notify b s.deployment.extensions (.afterBeanDiscovery (s.sources b f)) with hv
  have hown : s.deployment.problems s.loader s.closed f = s.ownProblems f := rfl
  cases hl : s.lease? with
  | none =>
    simp only [Bootstrap.problems, Bootstrap.identifierProblems_of_none hl, List.append_nil] at h ⊢
    simp only [conclude, ← hv, claim_of_none hl, hown]
    cases hp : s.ownProblems f with
    | nil => exact absurd hp h
    | cons p ps => rfl
  | some l =>
    have hr : s.deployment.registry = l.registry := (Bootstrap.lease?_eq_some_iff.1 hl).2
    simp only [Bootstrap.problems, Bootstrap.identifierProblems_of_some hl, hr] at h ⊢
    by_cases hh : l.id ∈ (w.registries l.registry).held
    · simp only [if_pos hh, conclude, ← hv, claim_of_held (w := v) hl hh, hown]
    · simp only [if_neg hh, List.append_nil] at h ⊢
      obtain ⟨hc, hrel⟩ := claim_of_free (w := v) hl hh
      simp only [conclude, ← hv, hc, hown]
      cases hp : s.ownProblems f with
      | nil => exact absurd hp h
      | cons p ps => simp only [Option.elim_some, hrel]

/-- The world in which the container of a start is up. -/
def launch (w : World) (b : Nat) (s : Bootstrap) (f : Findings) : World :=
  let v := w.notify b s.deployment.extensions (.afterBeanDiscovery (s.sources b f))
  ((s.lease?.elim v v.hold).setStage b (.running ⟨s.model b f, s.lease?⟩)).notify b
    s.deployment.extensions (.afterDeploymentValidation (s.model b f))

@[simp] lemma leases_launch (w : World) (b : Nat) (s : Bootstrap) (f : Findings) :
    (w.launch b s f).leases = w.leases := by
  simp only [launch]
  cases s.lease? <;> rfl

@[simp] lemma environments_launch (w : World) (b : Nat) (s : Bootstrap) (f : Findings) :
    (w.launch b s f).environments = w.environments := by
  simp only [launch]
  cases s.lease? <;> rfl

@[simp] lemma length_stages_launch (w : World) (b : Nat) (s : Bootstrap) (f : Findings) :
    (w.launch b s f).stages.length = w.stages.length := by
  simp only [launch]
  cases s.lease? <;> simp

/-- A launch holds the identifier of the start, if there is one, and no other. -/
lemma mem_held_launch {w : World} {b : Nat} {s : Bootstrap} {f : Findings} {r : Nat}
    {id : String} :
    id ∈ ((w.launch b s f).registries r).held ↔
      id ∈ (w.registries r).held ∨ s.lease? = some ⟨r, id⟩ := by
  simp only [launch, registries_notify, registries_setStage]
  cases s.lease? with
  | none => simp
  | some l => simp [mem_held_hold]

lemma stage_launch_self {w : World} {b : Nat} (h : b < w.stages.length) (s : Bootstrap)
    (f : Findings) : (w.launch b s f).stage b = .running ⟨s.model b f, s.lease?⟩ := by
  simp only [launch, stage_notify]
  cases s.lease? <;> exact stage_setStage_self h _

lemma stage_launch_of_ne {w : World} {b b' : Nat} (h : b' ≠ b) (s : Bootstrap) (f : Findings) :
    (w.launch b s f).stage b' = w.stage b' := by
  simp only [launch, stage_notify, stage_setStage_of_ne h]
  cases s.lease? <;> rfl

/-- A start without problems leaves a container that holds the lease of its identifier. -/
lemma conclude_of_eq_nil {w : World} {b : Nat} {s : Bootstrap} {f : Findings}
    (h : s.problems f (w.registries s.deployment.registry) = []) :
    w.conclude b s f = (w.launch b s f, .ready (.ok (s.model b f))) := by
  set v := w.notify b s.deployment.extensions (.afterBeanDiscovery (s.sources b f)) with hv
  have hown' : s.deployment.problems s.loader s.closed f = [] := (List.append_eq_nil_iff.1 h).1
  cases hl : s.lease? with
  | none => simp only [conclude, ← hv, claim_of_none hl, hown', launch, hl, Option.elim_none]
  | some l =>
    have hfree : l.id ∉ (v.registries l.registry).held := s.free_of_problems_eq_nil h hl
    simp only [conclude, ← hv, (claim_of_free hl hfree).1, hown', launch, hl, Option.elim_some]

/-! ### The rules of a poll -/

/-- The start that a poll goes on with, the scans that it asks, and how far the discovery gets. -/
def progress? (w : World) (b : Nat) (params : Properties) :
    Option (Bootstrap × List Scan × Progress) :=
  match w.stage b with
  | .configuring d =>
    let h := w.host d.environment
    let s := Bootstrap.start d params h w.isClosed
    if h.managed then none else some (s, h.ask s.loader {} s.scans)
  | .bootstrapping s pending =>
    some (s, pending.resume (w.host s.deployment.environment) s.loader)
  | _ => none

/-- The start that a poll brings to its end, with what its scans have answered. -/
def concluding? (w : World) (b : Nat) (params : Properties) : Option (Bootstrap × Findings) :=
  match w.progress? b params with
  | some (s, _, .finished f) => some (s, f)
  | _ => none

/-- How a builder has been used up, if it has. -/
def spent? (w : World) (b : Nat) : Option SpentError :=
  match w.stage b with
  | .running _ | .stopped => some .alreadyInitialized
  | .failed => some .failedEarlier
  | _ => none

/-- Everything that a poll of a builder can come to. -/
inductive PollRule (w : World) (b : Nat) (params : Properties) : World × PollResult → Prop
  /-- The builder is used up. -/
  | spent {e : SpentError} (h : w.spent? b = some e) :
      PollRule w b params (w, .ready (.error (.illegalState e)))
  | managed {d : Deployment} (hd : w.stage b = .configuring d)
      (hm : (w.host d.environment).managed = true) :
      PollRule w b params (w.setStage b .failed, .ready (.error .managedHost))
  /-- An answer has to be waited for. -/
  | waits {s : Bootstrap} {asked : List Scan} {pending : Pending}
      (h : w.progress? b params = some (s, asked, .waiting pending)) :
      PollRule w b params
        ((w.recordScans b s.deployment.environment s.loader asked).setStage b
          (.bootstrapping s pending), .pending)
  /-- All scans are answered, and the deployment has problems. -/
  | refused {s : Bootstrap} {asked : List Scan} {f : Findings}
      (h : w.progress? b params = some (s, asked, .finished f))
      (hp : s.problems f (w.registries s.deployment.registry) ≠ []) :
      PollRule w b params
        (((w.recordScans b s.deployment.environment s.loader asked).notify b
            s.deployment.extensions (.afterBeanDiscovery (s.sources b f))).setStage b .failed,
          .ready (.error (.definition (s.problems f (w.registries s.deployment.registry)))))
  /-- All scans are answered, and the deployment has no problem. -/
  | launched {s : Bootstrap} {asked : List Scan} {f : Findings}
      (h : w.progress? b params = some (s, asked, .finished f))
      (hp : s.problems f (w.registries s.deployment.registry) = []) :
      PollRule w b params
        ((w.recordScans b s.deployment.environment s.loader asked).launch b s f,
          .ready (.ok (s.model b f)))

/-- No start goes on that has used its builder up. -/
lemma progress?_of_spent? {w : World} {b : Nat} {params : Properties} {e : SpentError}
    (h : w.spent? b = some e) : w.progress? b params = none := by
  cases hs : w.stage b with
  | configuring d => simp [spent?, hs] at h
  | bootstrapping s pending => simp [spent?, hs] at h
  | _ => simp only [progress?, hs]

/-- A start that a poll goes on with begins with the poll, or has been waiting for it. -/
lemma progress?_cases {w : World} {b : Nat} {params : Properties} {s : Bootstrap}
    {r : List Scan × Progress} (h : w.progress? b params = some (s, r)) :
    (∃ d, w.stage b = .configuring d ∧ (w.host d.environment).managed = false ∧
      s = .start d params (w.host d.environment) w.isClosed ∧
      r = (w.host d.environment).ask s.loader {} s.scans) ∨
    ∃ p, w.stage b = .bootstrapping s p ∧
      r = p.resume (w.host s.deployment.environment) s.loader := by
  rw [progress?] at h
  split at h
  · rename_i d hd
    simp only [Option.ite_none_left_eq_some, Option.some.injEq, Prod.mk.injEq] at h
    obtain ⟨hm, rfl, rfl⟩ := h
    exact .inl ⟨d, hd, by simpa using hm, rfl, rfl⟩
  · rename_i s' p hs
    simp only [Option.some.injEq, Prod.mk.injEq] at h
    obtain ⟨rfl, rfl⟩ := h
    exact .inr ⟨p, hs, rfl⟩
  · cases h

lemma poll_of_progress? {w : World} {b : Nat} {params : Properties} {s : Bootstrap}
    {r : List Scan × Progress} (h : w.progress? b params = some (s, r)) :
    w.poll b params = w.advance b s r := by
  rcases progress?_cases h with ⟨d, hd, hm, rfl, rfl⟩ | ⟨p, hs, rfl⟩
  · simp only [poll, hd, hm, Bool.false_eq_true, if_false]
  · simp only [poll, hs]

/-- The poll that ends a start with problems. -/
lemma poll_of_ne_nil {w : World} {b : Nat} {params : Properties} {s : Bootstrap}
    {asked : List Scan} {f : Findings}
    (h : w.progress? b params = some (s, asked, .finished f))
    (hp : s.problems f (w.registries s.deployment.registry) ≠ []) :
    w.poll b params =
      (((w.recordScans b s.deployment.environment s.loader asked).notify b
          s.deployment.extensions (.afterBeanDiscovery (s.sources b f))).setStage b .failed,
        .ready (.error (.definition (s.problems f (w.registries s.deployment.registry))))) := by
  rw [poll_of_progress? h, advance]
  exact conclude_of_ne_nil hp

/-- The poll that ends a start without problems. -/
lemma poll_of_eq_nil {w : World} {b : Nat} {params : Properties} {s : Bootstrap}
    {asked : List Scan} {f : Findings}
    (h : w.progress? b params = some (s, asked, .finished f))
    (hp : s.problems f (w.registries s.deployment.registry) = []) :
    w.poll b params =
      ((w.recordScans b s.deployment.environment s.loader asked).launch b s f,
        .ready (.ok (s.model b f))) := by
  rw [poll_of_progress? h, advance]
  exact conclude_of_eq_nil hp

theorem PollRule.of_progress? {w : World} {b : Nat} {params : Properties} {s : Bootstrap}
    {r : List Scan × Progress} (h : w.progress? b params = some (s, r)) :
    PollRule w b params (w.poll b params) := by
  obtain ⟨asked, progress⟩ := r
  cases progress with
  | waiting pending =>
    rw [poll_of_progress? h]
    exact .waits h
  | finished f =>
    by_cases hp : s.problems f (w.registries s.deployment.registry) = []
    · rw [poll_of_eq_nil h hp]
      exact .launched h hp
    · rw [poll_of_ne_nil h hp]
      exact .refused h hp

/-- A poll comes to what one of the rules says. -/
theorem PollRule.of_poll {w : World} {b : Nat} {params : Properties} {r : World × PollResult}
    (h : w.poll b params = r) : PollRule w b params r := by
  subst h
  cases hs : w.stage b with
  | configuring d =>
    by_cases hm : (w.host d.environment).managed = true
    · have hp : w.poll b params = (w.setStage b .failed, .ready (.error .managedHost)) := by
        simp [poll, hs, hm]
      rw [hp]
      exact .managed hs hm
    · exact .of_progress? (by simp only [progress?, hs, if_neg hm]; rfl)
  | bootstrapping s pending => exact .of_progress? (by simp only [progress?, hs]; rfl)
  | running c =>
    simp only [poll, hs]
    exact .spent (by simp [spent?, hs])
  | stopped =>
    simp only [poll, hs]
    exact .spent (by simp [spent?, hs])
  | failed =>
    simp only [poll, hs]
    exact .spent (by simp [spent?, hs])

lemma concluding?_eq_some_iff {w : World} {b : Nat} {params : Properties} {s : Bootstrap}
    {f : Findings} :
    w.concluding? b params = some (s, f) ↔
      ∃ asked, w.progress? b params = some (s, asked, .finished f) := by
  rw [concluding?]
  constructor
  · intro h
    split at h
    · rename_i s' asked f' hp
      simp only [Option.some.injEq, Prod.mk.injEq] at h
      obtain ⟨rfl, rfl⟩ := h
      exact ⟨asked, hp⟩
    · cases h
  · rintro ⟨asked, h⟩
    simp [h]

/-- A builder whose start goes on has no container yet, and the start keeps its registry. -/
lemma stage_of_progress? {w : World} {b : Nat} {params : Properties} {s : Bootstrap}
    {r : List Scan × Progress} (h : w.progress? b params = some (s, r)) :
    (w.stage b).container? = none ∧ (w.stage b).registryNumber? = some s.deployment.registry := by
  rcases progress?_cases h with ⟨d, hd, -, rfl, -⟩ | ⟨p, hs, -⟩
  · rw [hd]
    exact ⟨rfl, rfl⟩
  · rw [hs]
    exact ⟨rfl, rfl⟩

/-- A start that a poll goes on with is that of a builder that was made. -/
lemma lt_length_of_progress? {w : World} {b : Nat} {params : Properties}
    {r : Bootstrap × List Scan × Progress} (h : w.progress? b params = some r) :
    b < w.stages.length := by
  refine lt_length_of_stage_ne_failed fun hs => ?_
  simp [progress?, hs] at h

/-! ### What polls leave alone -/

@[simp] lemma leases_poll (w : World) (b : Nat) (params : Properties) :
    (w.poll b params).1.leases = w.leases := by
  generalize h : w.poll b params = r
  cases PollRule.of_poll h <;> simp

@[simp] lemma environments_poll (w : World) (b : Nat) (params : Properties) :
    (w.poll b params).1.environments = w.environments := by
  generalize h : w.poll b params = r
  cases PollRule.of_poll h <;> simp

@[simp] lemma length_stages_poll (w : World) (b : Nat) (params : Properties) :
    (w.poll b params).1.stages.length = w.stages.length := by
  generalize h : w.poll b params = r
  cases PollRule.of_poll h <;> simp

lemma stage_poll_of_ne {w : World} {b b' : Nat} (h : b' ≠ b) (params : Properties) :
    (w.poll b params).1.stage b' = w.stage b' := by
  generalize hr : w.poll b params = r
  cases PollRule.of_poll hr <;> simp [stage_setStage_of_ne h, stage_launch_of_ne h]

/-- A poll changes the registries only if it hands out a container. -/
lemma registries_poll {w : World} {b : Nat} {params : Properties}
    (h : ∀ model, (w.poll b params).2 ≠ .ready (.ok model)) :
    (w.poll b params).1.registries = w.registries := by
  generalize hr : w.poll b params = r at h ⊢
  cases PollRule.of_poll hr with
  | launched => exact absurd rfl (h _)
  | _ => simp

@[simp] lemma registries_abandon (w : World) (b : Nat) :
    (w.abandon b).registries = w.registries := by
  rw [abandon]
  split <;> rfl

@[simp] lemma environments_abandon (w : World) (b : Nat) :
    (w.abandon b).environments = w.environments := by
  rw [abandon]
  split <;> rfl

@[simp] lemma length_stages_abandon (w : World) (b : Nat) :
    (w.abandon b).stages.length = w.stages.length := by
  rw [abandon]
  split
  · exact length_stages_setStage ..
  · rfl

/-- A start that does not hand out a container, however often it is polled, leaves the registries
as they are. -/
lemma registries_bootstrap {w : World} {b : Nat} {params : Properties} {polls : Nat}
    (h : ∀ model, (w.bootstrap b params polls).2 ≠ some (.ok model)) :
    (w.bootstrap b params polls).1.registries = w.registries := by
  induction polls generalizing w with
  | zero => simp [bootstrap]
  | succ polls ih =>
    rw [bootstrap] at h ⊢
    have hp : (∀ model, (w.poll b params).2 ≠ .ready (.ok model)) →
        (w.poll b params).1.registries = w.registries := registries_poll
    generalize w.poll b params = r at h hp ⊢
    obtain ⟨v, result⟩ := r
    cases result with
    | pending => exact (ih h).trans (hp (by simp))
    | ready outcome => exact hp fun model hm => h model (by simpa using hm)

/-! ### Events of the caller's own -/

@[simp] lemma stages_fire (w : World) (b : Nat) (name : String) (payload : Json) :
    (w.fire b name payload).stages = w.stages := by
  rw [fire]
  split <;> rfl

@[simp] lemma environments_fire (w : World) (b : Nat) (name : String) (payload : Json) :
    (w.fire b name payload).environments = w.environments := by
  rw [fire]
  split <;> rfl

/-! ### Containers that go down -/

lemma shutdown_of_none {w : World} {b : Nat} (h : w.container? b = none) : w.shutdown b = w := by
  simp [shutdown, h]

lemma shutdown_of_some {w : World} {b : Nat} {c : Container} (h : w.container? b = some c) :
    w.shutdown b =
      let v := (w.notify b c.model.extensions (.beforeShutdown c.model.containerId)).setStage b
        .stopped
      c.lease.elim v v.release := by
  simp only [shutdown, h]
  cases c.lease <;> rfl

lemma container?_eq_some_iff {w : World} {b : Nat} {c : Container} :
    w.container? b = some c ↔ w.stage b = .running c := by
  rw [container?]
  cases w.stage b <;> simp [Stage.container?]

lemma lt_length_of_container? {w : World} {b : Nat} {c : Container}
    (h : w.container? b = some c) : b < w.stages.length := by
  refine lt_length_of_stage_ne_failed fun hs => ?_
  simp [container?, hs, Stage.container?] at h

@[simp] lemma leases_shutdown (w : World) (b : Nat) : (w.shutdown b).leases = w.leases := by
  cases h : w.container? b with
  | none => rw [shutdown_of_none h]
  | some c =>
    rw [shutdown_of_some h]
    cases c.lease <;> rfl

@[simp] lemma environments_shutdown (w : World) (b : Nat) :
    (w.shutdown b).environments = w.environments := by
  cases h : w.container? b with
  | none => rw [shutdown_of_none h]
  | some c =>
    rw [shutdown_of_some h]
    cases c.lease <;> rfl

/-- A container that goes down is stopped, and no other builder enters another stage. -/
lemma stages_shutdown {w : World} {b : Nat} {c : Container} (h : w.container? b = some c) :
    (w.shutdown b).stages = (w.setStage b .stopped).stages := by
  rw [shutdown_of_some h]
  cases c.lease <;> rfl

@[simp] lemma length_stages_shutdown (w : World) (b : Nat) :
    (w.shutdown b).stages.length = w.stages.length := by
  cases h : w.container? b with
  | none => rw [shutdown_of_none h]
  | some c => rw [stages_shutdown h, length_stages_setStage]

/-- A container that goes down lets go of its identifier, if it has one, and of no other. -/
lemma mem_held_shutdown {w : World} {b : Nat} {c : Container} (h : w.container? b = some c)
    {r : Nat} {id : String} :
    id ∈ ((w.shutdown b).registries r).held ↔
      id ∈ (w.registries r).held ∧ c.lease ≠ some ⟨r, id⟩ := by
  rw [shutdown_of_some h]
  cases c.lease with
  | none => simp
  | some l => simp [mem_held_release]

end World

end BeanContainer
