import BeanContainer.Proofs.Lifecycle.News
import BeanContainer.Proofs.Lifecycle.Pursuit
/-!
# How the story of a builder goes

The story of a builder begins when its start comes to an end, goes on while a container is up, and
is over when that goes down or when there never was one. `World.IsSpent` marks the first of these
moments: no step before it makes a round (`World.story_eq_nil`), and no call is accepted after it
(`World.IsSpent.acceptedCalls`). What is told while a container is up is read off the steps alone
(`World.told_story_of_running`).
-/

namespace BeanContainer

/-- A poll tells what has become of a deployment: a container, or its problems. -/
inductive PollResult.IsVerdict : PollResult → Prop
  | started (model : Model) : IsVerdict (.ready (.ok model))
  | refused (problems : List Problem) : IsVerdict (.ready (.error (.definition problems)))

namespace World

variable {w : World} {b : Nat}

lemma story_append (w : World) (b : Nat) (ss ts : List Step) :
    w.story b (ss ++ ts) = w.story b ss ++ (w.run ss).1.story b ts := by
  induction ss generalizing w with
  | nil => rfl
  | cons s ss ih => simp [story, ih]

/-- A round of a run is a round of one of its steps. -/
lemma exists_of_mem_story {steps : List Step} {r : Round} (h : r ∈ w.story b steps) :
    ∃ before s after, steps = before ++ s :: after ∧ RoundRule (w.run before).1 b s r := by
  induction steps generalizing w with
  | nil => cases h
  | cons s ss ih =>
    rcases List.mem_append.1 h with h | h
    · exact ⟨[], s, ss, rfl, .of_mem_rounds h⟩
    · obtain ⟨before, s', after, rfl, hr⟩ := ih h
      exact ⟨s :: before, s', after, rfl, hr⟩

/-! ### Builders that are used up -/

/-- A builder that was made has been used up. -/
structure IsSpent (w : World) (b : Nat) : Prop where
  made : b < w.stages.length
  used : (w.stage b).registryNumber? = none

/-- A builder that is used up remains so. -/
lemma IsSpent.step (h : w.IsSpent b) (s : Step) : (w.step s).1.IsSpent b := by
  refine ⟨Nat.lt_of_lt_of_le h.made (w.length_stages_step s), ?_⟩
  have hused := h.used
  have hrule := StageRule.of_step w b s
  generalize (w.step s).1.stage b = t, (w.step s).2 = r at hrule ⊢
  cases hrule with
  | kept => exact hused
  | made hb => exact absurd hb (Nat.ne_of_lt h.made)
  | called hd => cases hd ▸ hused
  | waits hp => cases (stage_of_progress? hp).2.symm.trans hused
  | _ => rfl

lemma IsSpent.run (h : w.IsSpent b) (steps : List Step) : (w.run steps).1.IsSpent b := by
  induction steps generalizing w with
  | nil => exact h
  | cons s ss ih => exact ih (h.step s)

lemma IsSpent.progress?_eq_none (h : w.IsSpent b) (params : Properties) :
    w.progress? b params = none := by
  cases hp : w.progress? b params with
  | none => rfl
  | some r => cases (stage_of_progress? hp).2.symm.trans h.used

lemma isSpent_of_running {c : Container} (h : w.stage b = .running c) : w.IsSpent b :=
  ⟨lt_length_of_container? (container?_eq_some_iff.2 h), by rw [h]; rfl⟩

/-- A poll that ends a discovery uses the builder up. -/
lemma isSpent_poll_of_finished {params : Properties} {s : Bootstrap} {asked : List Scan}
    {f : Findings} (h : w.progress? b params = some (s, asked, .finished f)) :
    (w.poll b params).1.IsSpent b :=
  ⟨by simpa using lt_length_of_progress? h, registryNumber?_stage_poll_of_finished h⟩

/-- A poll that comes to an outcome uses the builder up, or finds it used up. -/
lemma isSpent_poll_of_ready {params : Properties} {outcome : Except BootstrapError Model}
    (hb : b < w.stages.length) (hr : (w.poll b params).2 = .ready outcome) :
    (w.poll b params).1.IsSpent b := by
  refine ⟨(hasBegun_poll hb params).made, ?_⟩
  generalize hp : w.poll b params = r at hr ⊢
  cases PollRule.of_poll hp with
  | @spent e he =>
    rw [spent?] at he
    cases hs : w.stage b <;> simp_all [Stage.registryNumber?]
  | managed =>
    rw [stage_setStage_self hb]
    rfl
  | waits => cases hr
  | refused =>
    rw [stage_setStage_self (by exact hb)]
    rfl
  | launched =>
    rw [stage_launch_self (by exact hb)]
    rfl

/-- Abandoning a start that has begun uses the builder up. -/
lemma HasBegun.isSpent_abandon (h : w.HasBegun b) : (w.abandon b).IsSpent b := by
  refine ⟨by simpa using h.made, ?_⟩
  cases hs : w.stage b with
  | configuring d => exact absurd hs (h.begun d)
  | bootstrapping s p =>
    simp only [abandon, hs, stage_setStage_self h.made]
    rfl
  | _ =>
    simp only [abandon, hs]
    rfl

/-- A builder whose extensions are told something has been used up by then. -/
lemma RoundRule.isSpent {s : Step} {r : Round} (h : w.RoundRule b s r) :
    (w.step s).1.IsSpent b := by
  cases h with
  | discovered hp => exact isSpent_poll_of_finished hp
  | validated hp => exact isSpent_poll_of_finished hp
  | fired hs => exact (isSpent_of_running hs).step _
  | ending hs => exact (isSpent_of_running hs).step _

/-- As long as a builder has not been used up, its extensions are told nothing. -/
theorem story_eq_nil {steps : List Step} (h : ¬ (w.run steps).1.IsSpent b) :
    w.story b steps = [] := by
  refine List.eq_nil_iff_forall_not_mem.2 fun r hr => h ?_
  obtain ⟨before, s, after, rfl, hrule⟩ := exists_of_mem_story hr
  rw [run_append]
  exact hrule.isSpent.run after

/-- A builder that is used up accepts no call. -/
lemma IsSpent.acceptedCalls (h : w.IsSpent b) (steps : List Step) :
    acceptedCalls b steps (w.run steps).2 = [] := by
  induction steps generalizing w with
  | nil => rfl
  | cons s ss ih =>
    rw [run_cons, acceptedCalls_cons, ih (h.step s), List.append_nil]
    cases hc : acceptedCall? b s (w.step s).2 with
    | none => rfl
    | some c =>
      obtain ⟨d, hd, -⟩ := (StageRule.of_step w b s).exists_of_acceptedCall? hc
      cases hd ▸ h.used

/-- The calls on a builder that are accepted in a run are accepted before it is used up. -/
lemma acceptedCalls_of_isSpent {before rest : List Step} {s : Step}
    (h : ((w.run before).1.step s).1.IsSpent b)
    (hs : acceptedCall? b s ((w.run before).1.step s).2 = none) :
    BeanContainer.acceptedCalls b (before ++ s :: rest) (w.run (before ++ s :: rest)).2 =
      BeanContainer.acceptedCalls b before (w.run before).2 := by
  rw [run_append, acceptedCalls_append b (w.length_run before), run_cons, acceptedCalls_cons, hs,
    h.acceptedCalls, Option.toList_none, List.append_nil, List.append_nil]

/-! ### Managed hosts -/

lemma poll_of_managed {d : Deployment} (hd : w.stage b = .configuring d)
    (hm : (w.host d.environment).managed = true) (params : Properties) :
    w.poll b params = (w.setStage b .failed, .ready (.error .managedHost)) := by
  simp only [poll, hd, if_pos hm]

/-- No start goes on with a managed host. -/
lemma progress?_of_managed {d : Deployment} (hd : w.stage b = .configuring d)
    (hm : (w.host d.environment).managed = true) (params : Properties) :
    w.progress? b params = none := by
  simp only [progress?, hd, if_pos hm]

/-- A managed host uses the builder up, and leaves no container. -/
lemma isSpent_poll_of_managed {d : Deployment} (hd : w.stage b = .configuring d)
    (hm : (w.host d.environment).managed = true) (params : Properties) :
    (w.poll b params).1.IsSpent b ∧ (w.poll b params).1.container? b = none := by
  have hb : b < w.stages.length := lt_length_of_configuring hd
  have hp := poll_of_managed hd hm params
  constructor
  · exact isSpent_poll_of_ready hb (by rw [hp])
  · rw [hp, container?, stage_setStage_self hb]
    rfl

/-- No start is ever in progress on a managed host. -/
lemma InProgress.eq_of_managed {w₀ : World} {d : Deployment} {params : Properties}
    (hw : w₀.InProgress b params w) (hd : w₀.stage b = .configuring d)
    (hm : (w₀.host d.environment).managed = true) : w = w₀ := by
  rcases hw with rfl | ⟨steps, s, p, rfl, hs⟩
  · rfl
  · have hspent := ((isSpent_poll_of_managed hd hm params).1.run steps).used
    cases (congrArg Stage.registryNumber? hs).symm.trans hspent

/-- No start succeeds on a managed host. -/
lemma InProgress.managed_of_started {w₀ : World} {d : Deployment} {params : Properties}
    {model : Model} (hw : w₀.InProgress b params w) (hd : w₀.stage b = .configuring d)
    (hr : (w.poll b params).2 = .ready (.ok model)) :
    (w₀.host d.environment).managed = false := by
  by_contra hm
  rw [Bool.not_eq_false] at hm
  obtain rfl := hw.eq_of_managed hd hm
  rw [poll_of_managed hd hm] at hr
  cases hr

/-! ### Where there is no container -/

lemma isVerdict_of_finished {params : Properties} {s : Bootstrap} {asked : List Scan}
    {f : Findings} (h : w.progress? b params = some (s, asked, .finished f)) :
    (w.poll b params).2.IsVerdict := by
  by_cases hp : s.problems f (w.registries s.deployment.registry) = []
  · rw [poll_of_eq_nil h hp]
    exact .started _
  · rw [poll_of_ne_nil h hp]
    exact .refused _

/-- Without a container, only the verdict on a start is told. -/
lemma rounds_eq_nil {s : Step} (h : w.container? b = none)
    (hs : ∀ params, s = .poll b params → ¬ (w.poll b params).2.IsVerdict) :
    w.rounds b s = [] := by
  refine List.eq_nil_iff_forall_not_mem.2 fun r hr => ?_
  cases RoundRule.of_mem_rounds hr with
  | discovered hp => exact hs _ rfl (isVerdict_of_finished hp)
  | validated hp => exact hs _ rfl (isVerdict_of_finished hp)
  | fired hc => cases h.symm.trans (container?_eq_some_iff.2 hc)
  | ending hc => cases h.symm.trans (container?_eq_some_iff.2 hc)

/-- A container goes up with a verdict only. -/
lemma container?_step_eq_none {s : Step} (h : w.container? b = none)
    (hs : ∀ params, s = .poll b params → ¬ (w.poll b params).2.IsVerdict) :
    (w.step s).1.container? b = none := by
  rw [container?] at h ⊢
  have hrule := StageRule.of_step w b s
  generalize (w.step s).1.stage b = t, (w.step s).2 = r at hrule ⊢
  cases hrule with
  | kept => exact h
  | launched hp => exact absurd (isVerdict_of_finished hp) (hs _ rfl)
  | _ => rfl

/-- Extensions are told nothing as long as there is neither a container nor a verdict. -/
theorem story_of_no_verdict {steps : List Step} (h : w.container? b = none)
    (hs : ∀ before params rest, steps = before ++ .poll b params :: rest →
      ¬ ((w.run before).1.poll b params).2.IsVerdict) : w.story b steps = [] := by
  induction steps generalizing w with
  | nil => rfl
  | cons s ss ih =>
    have hhead : ∀ params, s = .poll b params → ¬ (w.poll b params).2.IsVerdict := by
      rintro params rfl
      exact hs [] params ss rfl
    rw [story, rounds_eq_nil h hhead, List.nil_append]
    refine ih (container?_step_eq_none h hhead) fun before params rest hss => ?_
    exact hs (s :: before) params rest (by rw [hss]; rfl)

lemma exists_poll_eq_of_used (h : (w.stage b).registryNumber? = none) (params : Properties) :
    ∃ e, w.poll b params = (w, .ready (.error (.illegalState e))) := by
  rw [poll]
  cases hs : w.stage b with
  | configuring d => cases hs ▸ h
  | bootstrapping s p => cases hs ▸ h
  | _ => exact ⟨_, rfl⟩

/-- A builder that is used up cannot be started, and a poll changes nothing. -/
lemma IsSpent.exists_poll_eq (h : w.IsSpent b) (params : Properties) :
    ∃ e, w.poll b params = (w, .ready (.error (.illegalState e))) :=
  exists_poll_eq_of_used h.used params

lemma IsSpent.not_isVerdict (h : w.IsSpent b) (params : Properties) :
    ¬ (w.poll b params).2.IsVerdict := by
  obtain ⟨e, he⟩ := h.exists_poll_eq params
  rw [he]
  nofun

/-- Extensions are told nothing once there is no container any more. -/
lemma IsSpent.story_eq_nil (h : w.IsSpent b) (hc : w.container? b = none) (steps : List Step) :
    w.story b steps = [] :=
  story_of_no_verdict hc fun before params _ _ => (h.run before).not_isVerdict params

/-! ### Containers that are up -/

/-- A container stays up until it is shut down. -/
lemma stage_step_of_running {c : Container} {s : Step} (h : w.stage b = .running c)
    (hs : s.isShutdownOf b = false) : (w.step s).1.stage b = .running c := by
  have hused := (isSpent_of_running h).used
  have hrule := StageRule.of_step w b s
  generalize (w.step s).1.stage b = t, (w.step s).2 = r at hrule ⊢
  cases hrule with
  | kept => exact h
  | made hb => exact absurd hb (Nat.ne_of_lt (isSpent_of_running h).made)
  | called hd => cases hd ▸ h
  | waits hp => cases (stage_of_progress? hp).2.symm.trans hused
  | managed hd => cases hd ▸ h
  | refused hp => cases (stage_of_progress? hp).2.symm.trans hused
  | launched hp => cases (stage_of_progress? hp).2.symm.trans hused
  | abandoned hd => cases hd ▸ h
  | stopped => simp [Step.isShutdownOf] at hs

/-- A container that is shut down is no more. -/
lemma container?_shutdown_self {c : Container} (h : w.container? b = some c) :
    (w.shutdown b).container? b = none := by
  have hs : (w.shutdown b).stage b = (w.setStage b .stopped).stage b := by
    simp only [stage, stages_shutdown h]
  rw [container?, hs, stage_setStage_self (lt_length_of_container? h)]
  rfl

lemma told_rounds_of_running {c : Container} {s : Step} (h : w.stage b = .running c)
    (hs : s.isShutdownOf b = false) :
    (w.rounds b s).flatMap Round.told = deliver c.model.extensions (s.fired? b).toList := by
  have hc : w.container? b = some c := container?_eq_some_iff.2 h
  cases s with
  | poll b' params =>
    have hnone := concluding?_eq_none ((isSpent_of_running h).progress?_eq_none params)
    simp [rounds, hnone, Step.fired?]
  | fire b' name payload =>
    by_cases hb : b' = b
    · simp [rounds, Step.fired?, hb, hc, Round.told, deliver]
    · simp [rounds, Step.fired?, hb]
  | shutdown b' => simp_all [rounds, Step.fired?, Step.isShutdownOf]
  | _ => rfl

/-- What a container tells, as long as it is up and when it goes down. -/
theorem told_story_of_running {c : Container} (h : w.stage b = .running c) (steps : List Step) :
    (w.story b steps).flatMap Round.told =
      deliver c.model.extensions (newsOf b c.model.containerId steps) := by
  induction steps generalizing w with
  | nil => rfl
  | cons s ss ih =>
    rw [story, List.flatMap_append, newsOf]
    -- either the container is still up after the step, or it is gone and the story is over
    cases hs : s.isShutdownOf b with
    | false =>
      rw [told_rounds_of_running h hs, ih (stage_step_of_running h hs), if_neg (by simp),
        deliver_append]
    | true =>
      obtain rfl := Step.isShutdownOf_iff.1 hs
      have hc : w.container? b = some c := container?_eq_some_iff.2 h
      have hspent := (isSpent_of_running h).step (.shutdown b)
      rw [hspent.story_eq_nil (container?_shutdown_self hc)]
      simp [rounds, hc, Round.told, deliver]

/-! ### From the verdict on -/

lemma exists_progress?_of_refused {params : Properties} {problems : List Problem}
    (h : (w.poll b params).2 = .ready (.error (.definition problems))) :
    ∃ s asked f, w.progress? b params = some (s, asked, .finished f) ∧
      s.problems f (w.registries s.deployment.registry) ≠ [] := by
  generalize hr : w.poll b params = r at h
  cases PollRule.of_poll hr with
  | refused hp hne => exact ⟨_, _, _, hp, hne⟩
  | _ => cases h

lemma exists_progress?_of_started {params : Properties} {model : Model}
    (h : (w.poll b params).2 = .ready (.ok model)) :
    ∃ s asked f, w.progress? b params = some (s, asked, .finished f) ∧
      s.problems f (w.registries s.deployment.registry) = [] ∧ model = s.model b f := by
  generalize hr : w.poll b params = r at h
  cases PollRule.of_poll hr with
  | launched hp hnil => exact ⟨_, _, _, hp, hnil, by cases h; rfl⟩
  | _ => cases h

/-- Nothing is told before the poll that ends a discovery. -/
lemma story_of_finished {before : List Step} {params : Properties} {s : Bootstrap}
    {asked : List Scan} {f : Findings}
    (h : (w.run before).1.progress? b params = some (s, asked, .finished f)) (rest : List Step) :
    w.story b (before ++ .poll b params :: rest) =
      (w.run before).1.rounds b (.poll b params) ++
        ((w.run before).1.poll b params).1.story b rest := by
  -- the builder has a start to go on with, so it has not been used up before
  have hbefore : w.story b before = [] :=
    World.story_eq_nil fun hspent => by cases h.symm.trans (hspent.progress?_eq_none params)
  rw [story_append, hbefore, List.nil_append]
  rfl

/-- What is told in a run in which a start is refused: the sources. -/
theorem eventsOf_run_of_refused (before : List Step) {params : Properties} {s : Bootstrap}
    {asked : List Scan} {f : Findings}
    (h : (w.run before).1.progress? b params = some (s, asked, .finished f))
    (hp : s.problems f ((w.run before).1.registries s.deployment.registry) ≠ [])
    (rest : List Step) :
    (w.run (before ++ .poll b params :: rest)).1.eventsOf b =
      w.eventsOf b ++ deliver s.deployment.extensions [.afterBeanDiscovery (s.sources b f)] := by
  have hnone : ((w.run before).1.poll b params).1.container? b = none := by
    rw [poll_of_ne_nil h hp, container?, stage_setStage_self (by exact lt_length_of_progress? h)]
    rfl
  rw [eventsOf_run, story_of_finished h, rounds_poll_of_ne_nil h hp,
    (isSpent_poll_of_finished h).story_eq_nil hnone]
  simp [Round.told, deliver]

/-- What is told in a run in which a start succeeds: the sources, the model, and what the container
tells. -/
theorem eventsOf_run_of_started (before : List Step) {params : Properties} {s : Bootstrap}
    {asked : List Scan} {f : Findings}
    (h : (w.run before).1.progress? b params = some (s, asked, .finished f))
    (hp : s.problems f ((w.run before).1.registries s.deployment.registry) = [])
    (rest : List Step) :
    (w.run (before ++ .poll b params :: rest)).1.eventsOf b =
      w.eventsOf b ++ deliver s.deployment.extensions
        (.afterBeanDiscovery (s.sources b f) :: .afterDeploymentValidation (s.model b f) ::
          newsOf b s.deployment.containerId rest) := by
  have hup : ((w.run before).1.poll b params).1.stage b = .running ⟨s.model b f, s.lease?⟩ := by
    rw [poll_of_eq_nil h hp, stage_launch_self (by exact lt_length_of_progress? h)]
  rw [eventsOf_run, story_of_finished h, rounds_poll_of_eq_nil h hp, List.flatMap_append,
    told_story_of_running hup]
  simp [Round.told, deliver, Bootstrap.model, Deployment.model]

end World

end BeanContainer
