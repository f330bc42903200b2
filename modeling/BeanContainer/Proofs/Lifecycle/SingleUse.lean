import BeanContainer.Proofs.Lifecycle.Story
/-!
# Builders are used once

From the first poll of its start on, a builder refuses every call, and once the start is over, it
refuses every other start as well. What is refused changes nothing. Up to then no call is refused
because of what has become of the builder. So a builder comes to at most one container, and is
initialized exactly if it has come to one (`World.StartsOnce`).
-/

namespace BeanContainer

/-- What a step tells about how a start of a builder has ended, if it does. -/
def outcome? (b : Nat) : Step → StepResult → Option (Except BootstrapError Model)
  | .poll b' _, .polled (.ready outcome) => if b' = b then some outcome else none
  | _, _ => none

/-- How the starts of a builder have ended, refused ones included, in order. -/
def outcomes (b : Nat) (steps : List Step) (results : List StepResult) :
    List (Except BootstrapError Model) :=
  (steps.zip results).filterMap fun e => outcome? b e.1 e.2

@[simp] lemma outcomes_cons (b : Nat) (s : Step) (ss : List Step) (r : StepResult)
    (rs : List StepResult) :
    outcomes b (s :: ss) (r :: rs) = (outcome? b s r).toList ++ outcomes b ss rs := by
  cases h : outcome? b s r <;> simp [outcomes, h]

/-- A start of a builder is abandoned after it has been polled. -/
def IsAbandoned (b : Nat) (steps : List Step) : Prop :=
  ∃ before rest params, steps = before ++ .abandon b :: rest ∧ .poll b params ∈ before

lemma exists_poll_of_outcome? {b : Nat} {s : Step} {r : StepResult}
    {outcome : Except BootstrapError Model} (h : outcome? b s r = some outcome) :
    ∃ params, s = .poll b params ∧ r = .polled (.ready outcome) := by
  unfold outcome? at h
  split at h
  · rename_i b' params outcome'
    rw [Option.ite_none_right_eq_some] at h
    obtain ⟨rfl, ho⟩ := h
    obtain rfl := Option.some.inj ho
    exact ⟨params, rfl, rfl⟩
  · cases h

/-! ### Whether a builder is initialized -/

lemma World.isInitialized_of_progress? {w : World} {b : Nat} {params : Properties}
    {r : Bootstrap × List Scan × Progress}
    (h : w.progress? b params = some r) : (w.stage b).isInitialized = false := by
  rcases World.progress?_cases h with ⟨d, hd, -⟩ | ⟨p, hs, -⟩
  · rw [hd]
    rfl
  · rw [hs]
    rfl

/-- Only a start that succeeds changes whether a builder is initialized. -/
lemma StageRule.isInitialized_eq {w : World} {b : Nat} {s : Step} {r : StepResult} {t : Stage}
    (h : StageRule w b s r t) (ho : ∀ model, outcome? b s r ≠ some (.ok model)) :
    t.isInitialized = (w.stage b).isInitialized := by
  cases h with
  | kept => rfl
  | made hb =>
    have hs : w.stage b = .failed := by
      by_contra hne
      exact Nat.ne_of_lt (World.lt_length_of_stage_ne_failed hne) hb
    rw [hs]
    rfl
  | called hd =>
    rw [hd]
    rfl
  | waits hp =>
    rw [World.isInitialized_of_progress? hp]
    rfl
  | managed hd =>
    rw [hd]
    rfl
  | refused hp =>
    rw [World.isInitialized_of_progress? hp]
    rfl
  | launched => exact absurd (if_pos rfl) (ho _)
  | abandoned hs =>
    rw [hs]
    rfl
  | stopped hs =>
    rw [hs]
    rfl

namespace World

variable {w : World} {b : Nat}

/-! ### Before the first poll -/

/-- A builder can be configured as long as it is not polled. -/
lemma exists_configuring_step {d : Deployment} {s : Step} (hd : w.stage b = .configuring d)
    (hs : ∀ params, s ≠ .poll b params) : ∃ d', (w.step s).1.stage b = .configuring d' := by
  have hrule := StageRule.of_step w b s
  generalize (w.step s).1.stage b = t, (w.step s).2 = r at hrule ⊢
  cases hrule with
  | kept => exact ⟨d, hd⟩
  | made => exact ⟨_, rfl⟩
  | called => exact ⟨_, rfl⟩
  | abandoned hb => cases hd.symm.trans hb
  | stopped hb => cases hd.symm.trans hb
  | _ => exact absurd rfl (hs _)

lemma exists_configuring_run {d : Deployment} {steps : List Step}
    (hd : w.stage b = .configuring d) (hs : ∀ params, .poll b params ∉ steps) :
    ∃ d', (w.run steps).1.stage b = .configuring d' := by
  induction steps generalizing w d with
  | nil => exact ⟨d, hd⟩
  | cons s ss ih =>
    obtain ⟨d', hd'⟩ := exists_configuring_step hd fun params e =>
      hs params (e ▸ List.mem_cons_self)
    exact ih hd' fun params h => hs params (List.mem_cons_of_mem s h)

/-- A builder that can be configured does not refuse a call but for its argument. -/
lemma call_ne_illegalState {d : Deployment} (hd : w.stage b = .configuring d) (c : Call)
    (e : SpentError) : (w.call b c).2 ≠ .error (.illegalState e) := by
  intro h
  cases hc : c.fault? with
  | none =>
    rw [call_of_fault?_eq_none hd hc] at h
    cases h
  | some e' =>
    rw [call_of_fault? hd hc] at h
    cases h

/-! ### After the first poll -/

lemma lt_length_run (hb : b < w.stages.length) (steps : List Step) :
    b < (w.run steps).1.stages.length := by
  induction steps generalizing w with
  | nil => exact hb
  | cons s ss ih => exact ih (Nat.lt_of_lt_of_le hb (w.length_stages_step s))

/-- A run in which a builder is polled begins its start. -/
lemma hasBegun_run_of_polled {params : Properties} {steps : List Step}
    (hb : b < w.stages.length) (hs : .poll b params ∈ steps) : (w.run steps).1.HasBegun b := by
  obtain ⟨before, rest, rfl⟩ := List.append_of_mem hs
  rw [run_append]
  exact (hasBegun_poll (lt_length_run hb before) params).run rest

/-- A run in which a start is abandoned after it has begun uses the builder up. -/
lemma isSpent_run_of_isAbandoned {steps : List Step} (hb : b < w.stages.length)
    (hs : IsAbandoned b steps) : (w.run steps).1.IsSpent b := by
  obtain ⟨before, rest, params, rfl, hp⟩ := hs
  rw [run_append]
  exact (hasBegun_run_of_polled hb hp).isSpent_abandon.run rest

/-- A run in which a start comes to an outcome uses the builder up. -/
lemma isSpent_run_of_outcomes {steps : List Step} (hb : b < w.stages.length)
    (hs : outcomes b steps (w.run steps).2 ≠ []) : (w.run steps).1.IsSpent b := by
  induction steps generalizing w with
  | nil => exact absurd rfl hs
  | cons s ss ih =>
    rw [run_cons, outcomes_cons] at hs
    cases ho : outcome? b s (w.step s).2 with
    | none =>
      rw [ho] at hs
      exact ih (Nat.lt_of_lt_of_le hb (w.length_stages_step s)) hs
    | some outcome =>
      obtain ⟨params, rfl, hr⟩ := exists_poll_of_outcome? ho
      have hspent : (w.poll b params).1.IsSpent b :=
        isSpent_poll_of_ready hb (StepResult.polled.inj hr)
      exact hspent.run ss

/-! ### Containers -/

/-- A builder has come to one container at most, and is initialized exactly if it has. -/
structure StartsOnce (w : World) (b : Nat) (outcomes : List (Except BootstrapError Model)) :
    Prop where
  isInitialized_iff : (w.stage b).isInitialized = true ↔ ∃ model, .ok model ∈ outcomes
  length_le : (outcomes.filterMap Except.toOption).length ≤ 1

/-- A start that succeeds leaves an initialized builder, and finds one that is not. -/
lemma isInitialized_of_started {params : Properties} {model : Model}
    (h : (w.poll b params).2 = .ready (.ok model)) :
    (w.stage b).isInitialized = false ∧ ((w.poll b params).1.stage b).isInitialized = true := by
  obtain ⟨s, asked, f, hp, hnil, -⟩ := exists_progress?_of_started h
  constructor
  · exact isInitialized_of_progress? hp
  · rw [poll_of_eq_nil hp hnil, stage_launch_self (by exact lt_length_of_progress? hp)]
    rfl

lemma StartsOnce.step {outcomes : List (Except BootstrapError Model)}
    (h : w.StartsOnce b outcomes) (s : Step) :
    (w.step s).1.StartsOnce b (outcomes ++ (outcome? b s (w.step s).2).toList) := by
  by_cases ho : ∃ model, outcome? b s (w.step s).2 = some (.ok model)
  · -- a start succeeds, so none has succeeded before
    obtain ⟨model, ho⟩ := ho
    obtain ⟨params, rfl, hr⟩ := exists_poll_of_outcome? ho
    obtain ⟨hbefore, hafter⟩ := isInitialized_of_started (StepResult.polled.inj hr)
    have hnone : outcomes.filterMap Except.toOption = [] := by
      refine List.filterMap_eq_nil_iff.2 fun outcome hmem => ?_
      cases outcome with
      | error e => rfl
      | ok model' => cases hbefore.symm.trans (h.isInitialized_iff.2 ⟨model', hmem⟩)
    rw [ho]
    constructor
    · exact iff_of_true hafter ⟨model, List.mem_append_right _ List.mem_cons_self⟩
    · rw [List.filterMap_append, hnone]
      exact Nat.le_refl 1
  · have hno : ∀ model, outcome? b s (w.step s).2 ≠ some (.ok model) := not_exists.1 ho
    have hmem : ∀ model, .ok model ∉ (outcome? b s (w.step s).2).toList := by
      intro model hm
      exact hno model (Option.mem_toList.1 hm)
    constructor
    · rw [(StageRule.of_step w b s).isInitialized_eq hno, h.isInitialized_iff]
      simp [hmem]
    · have hnone : (outcome? b s (w.step s).2).toList.filterMap Except.toOption = [] := by
        refine List.filterMap_eq_nil_iff.2 fun outcome hm => ?_
        cases outcome with
        | error e => rfl
        | ok model => exact absurd hm (hmem model)
      rw [List.filterMap_append, hnone, List.append_nil]
      exact h.length_le

lemma StartsOnce.run {outcomes : List (Except BootstrapError Model)}
    (h : w.StartsOnce b outcomes) (steps : List Step) :
    (w.run steps).1.StartsOnce b
      (outcomes ++ BeanContainer.outcomes b steps (w.run steps).2) := by
  induction steps generalizing w outcomes with
  | nil => simpa [BeanContainer.outcomes] using h
  | cons s ss ih =>
    rw [run_cons, outcomes_cons, ← List.append_assoc]
    exact ih (h.step s)

/-- A builder is initialized once and for all. -/
lemma StartsOnce.isInitialized_run {outcomes : List (Except BootstrapError Model)}
    (h : w.StartsOnce b outcomes) (hi : (w.stage b).isInitialized = true) (steps : List Step) :
    ((w.run steps).1.stage b).isInitialized = true := by
  obtain ⟨model, hm⟩ := h.isInitialized_iff.1 hi
  exact (h.run steps).isInitialized_iff.2 ⟨model, List.mem_append_left _ hm⟩

end World

/-- A builder is used once, whatever is done to it and to others after it was made. Once it has been
polled, every call is refused and changes nothing, and once the start has ended or has been
abandoned, so is every poll; before the first poll, no call is refused for this reason. The builder
is initialized exactly if a start has succeeded, and remains so, and no second start succeeds. -/
theorem builder_used_once (w : World) (steps : List Step) :
    let b := w.stages.length
    let v := (w.newBuilder.1.run steps).1
    let outcomes := outcomes b steps (w.newBuilder.1.run steps).2
    ((∃ params, .poll b params ∈ steps) →
      ∀ c, ∃ e, v.call b c = (v, .error (.illegalState e))) ∧
    (outcomes ≠ [] ∨ IsAbandoned b steps →
      ∀ params, ∃ e, v.poll b params = (v, .ready (.error (.illegalState e)))) ∧
    ((∀ params, .poll b params ∉ steps) →
      ∀ c e, (v.call b c).2 ≠ .error (.illegalState e)) ∧
    ((v.stage b).isInitialized = true ↔ ∃ model, .ok model ∈ outcomes) ∧
    ((v.stage b).isInitialized = true →
      ∀ more, ((v.run more).1.stage b).isInitialized = true) ∧
    (outcomes.filterMap Except.toOption).length ≤ 1 := by
  intro b v outcomes
  have hd := w.stage_newBuilder_self
  have hb : b < w.newBuilder.1.stages.length := World.lt_length_of_configuring hd
  have honce : v.StartsOnce b outcomes := by
    have hnew : w.newBuilder.1.StartsOnce b [] := by
      constructor
      · rw [hd]
        exact iff_of_false nofun (by simp)
      · exact Nat.zero_le 1
    exact hnew.run steps
  refine ⟨?_, ?_, ?_, honce.isInitialized_iff, honce.isInitialized_run, honce.length_le⟩
  · rintro ⟨params, hp⟩ c
    exact (World.hasBegun_run_of_polled hb hp).exists_call_eq c
  · rintro (ho | ha) params
    · exact (World.isSpent_run_of_outcomes hb ho).exists_poll_eq params
    · exact (World.isSpent_run_of_isAbandoned hb ha).exists_poll_eq params
  · intro hp c e
    obtain ⟨d, hd'⟩ := World.exists_configuring_run hd hp
    exact World.call_ne_illegalState hd' c e

/-- A world with a host that answers after one poll in vain. -/
def slowWorld : World :=
  (({} : World).addEnvironment (.hosted { reply := fun _ _ => .after 1 (.ok []) })).1

/-- A builder that is polled once and abandoned. -/
def abandonedStart : List Step := [.call 0 (.setEnvironment 0), .poll 0 ∅, .abandon 0]

/-- A builder that is polled until it has a container, and once more. -/
def repeatedStart : List Step :=
  [.call 0 (.setEnvironment 0), .poll 0 ∅, .poll 0 ∅, .shutdown 0, .poll 0 ∅]

theorem builder_used_once_slowWorld :
    slowWorld.stages.length = 0 ∧
    (.poll 0 ∅ ∈ abandonedStart ∧ IsAbandoned 0 abandonedStart ∧
      let v := (slowWorld.newBuilder.1.run abandonedStart).1
      (∀ c, ∃ e, v.call 0 c = (v, .error (.illegalState e))) ∧
      (∀ params, ∃ e, v.poll 0 params = (v, .ready (.error (.illegalState e)))) ∧
      ¬ (v.stage 0).isInitialized = true) ∧
    ∃ model, outcomes 0 repeatedStart (slowWorld.newBuilder.1.run repeatedStart).2 =
        [.ok model, .error (.illegalState .alreadyInitialized)] ∧
      ((slowWorld.newBuilder.1.run repeatedStart).1.stage 0).isInitialized = true := by
  have hp : .poll 0 ∅ ∈ abandonedStart := .tail _ (.head _)
  have ha : IsAbandoned 0 abandonedStart :=
    ⟨[.call 0 (.setEnvironment 0), .poll 0 ∅], [], ∅, rfl, .tail _ (.head _)⟩
  obtain ⟨hcalls, hpolls, -, hinit, -⟩ := builder_used_once slowWorld abandonedStart
  obtain ⟨-, -, -, hinit', -⟩ := builder_used_once slowWorld repeatedStart
  refine ⟨rfl, ⟨hp, ha, hcalls ⟨∅, hp⟩, hpolls (.inr ha), ?_⟩, ?_⟩
  · intro h
    obtain ⟨model, hm⟩ := hinit.1 h
    cases hm
  · obtain ⟨model, ho⟩ : ∃ model,
        outcomes 0 repeatedStart (slowWorld.newBuilder.1.run repeatedStart).2 =
          [.ok model, .error (.illegalState .alreadyInitialized)] := ⟨_, rfl⟩
    refine ⟨model, ho, hinit'.2 ⟨model, ?_⟩⟩
    exact ho ▸ List.mem_cons_self

end BeanContainer
