import BeanContainer.Proofs.Deployment.Accumulation
import BeanContainer.Proofs.Lifecycle.Polling
/-!
# How a builder is configured

`StageRule` lists what one step can do to the stage of a builder, one rule for each way, and
`StageRule.of_step` says that there is no other. So as long as a builder can be configured, its
deployment is what the calls on it say that were accepted (`World.accumulates_run`), whatever else
has happened meanwhile, and what is to be shown of it is shown of one accepted call at a time
(`World.configuring_induction`).
-/

namespace BeanContainer

/-- The call on a builder that a step is, if it is one and has been accepted. -/
def acceptedCall? (b : Nat) : Step → StepResult → Option Call
  | .call b' c, .called (.ok _) => if b' = b then some c else none
  | _, _ => none

/-- The calls on a builder that have been accepted, in order. -/
def acceptedCalls (b : Nat) (steps : List Step) (results : List StepResult) : List Call :=
  (steps.zip results).filterMap fun e => acceptedCall? b e.1 e.2

@[simp] lemma acceptedCalls_cons (b : Nat) (s : Step) (ss : List Step) (r : StepResult)
    (rs : List StepResult) :
    acceptedCalls b (s :: ss) (r :: rs) =
      (acceptedCall? b s r).toList ++ acceptedCalls b ss rs := by
  cases h : acceptedCall? b s r <;> simp [acceptedCalls, h]

lemma acceptedCalls_append (b : Nat) {ss : List Step} {rs : List StepResult}
    (h : ss.length = rs.length) (ss' : List Step) (rs' : List StepResult) :
    acceptedCalls b (ss ++ ss') (rs ++ rs') =
      acceptedCalls b ss rs ++ acceptedCalls b ss' rs' := by
  rw [acceptedCalls, List.zip_append h, List.filterMap_append]
  rfl

/-- Everything that a step can do to the stage of a builder. -/
inductive StageRule (w : World) (b : Nat) : Step → StepResult → Stage → Prop
  /-- The step does not concern the builder, or is refused. -/
  | kept {s : Step} {r : StepResult} (hc : acceptedCall? b s r = none) :
      StageRule w b s r (w.stage b)
  | made {r : StepResult} (hb : b = w.stages.length) :
      StageRule w b .newBuilder r (.configuring
        { environment := w.environments.length, registry := World.globalRegistry })
  | called {d : Deployment} {c : Call} (hd : w.stage b = .configuring d) :
      StageRule w b (.call b c) (.called (.ok ())) (.configuring (d.apply c))
  | waits {params : Properties} {s : Bootstrap} {asked : List Scan} {pending : Pending}
      (h : w.progress? b params = some (s, asked, .waiting pending)) :
      StageRule w b (.poll b params) (.polled .pending) (.bootstrapping s pending)
  | managed {d : Deployment} {params : Properties} (hd : w.stage b = .configuring d) :
      StageRule w b (.poll b params) (.polled (.ready (.error .managedHost))) .failed
  | refused {params : Properties} {s : Bootstrap} {asked : List Scan} {f : Findings}
      {problems : List Problem} (h : w.progress? b params = some (s, asked, .finished f)) :
      StageRule w b (.poll b params) (.polled (.ready (.error (.definition problems)))) .failed
  | launched {params : Properties} {s : Bootstrap} {asked : List Scan} {f : Findings}
      (h : w.progress? b params = some (s, asked, .finished f)) :
      StageRule w b (.poll b params) (.polled (.ready (.ok (s.model b f))))
        (.running ⟨s.model b f, s.lease?⟩)
  | abandoned {s : Bootstrap} {p : Pending} (hs : w.stage b = .bootstrapping s p) :
      StageRule w b (.abandon b) .done .failed
  | stopped {c : Container} (hs : w.stage b = .running c) :
      StageRule w b (.shutdown b) .done .stopped

lemma StageRule.of_call (w : World) (b b' : Nat) (c : Call) :
    StageRule w b (.call b' c) (.called (w.call b' c).2) ((w.call b' c).1.stage b) := by
  rcases World.call_cases w b' c with ⟨d, hd, -, hc⟩ | ⟨e, hc⟩
  · rw [hc]
    have hb' : b' < w.stages.length := World.lt_length_of_configuring hd
    by_cases hb : b = b'
    · subst hb
      rw [World.stage_setStage_self hb']
      exact .called hd
    · rw [World.stage_setStage_of_ne hb]
      exact .kept (if_neg (Ne.symm hb))
  · rw [hc]
    exact .kept rfl

lemma StageRule.of_poll (w : World) (b b' : Nat) (params : Properties) :
    StageRule w b (.poll b' params) (.polled (w.poll b' params).2)
      ((w.poll b' params).1.stage b) := by
  by_cases hb : b = b'
  · subst hb
    generalize hr : w.poll b params = r
    cases World.PollRule.of_poll hr with
    | spent => exact .kept rfl
    | managed hd =>
      rw [World.stage_setStage_self (World.lt_length_of_configuring hd)]
      exact .managed hd
    | waits hp =>
      rw [World.stage_setStage_self (by exact World.lt_length_of_progress? hp)]
      exact .waits hp
    | refused hp =>
      rw [World.stage_setStage_self (by exact World.lt_length_of_progress? hp)]
      exact .refused hp
    | launched hp =>
      rw [World.stage_launch_self (by exact World.lt_length_of_progress? hp)]
      exact .launched hp
  · rw [World.stage_poll_of_ne hb]
    exact .kept rfl

lemma StageRule.of_abandon (w : World) (b b' : Nat) :
    StageRule w b (.abandon b') .done ((w.abandon b').stage b) := by
  rw [World.abandon]
  split
  · rename_i hs
    by_cases hb : b = b'
    · subst hb
      rw [World.stage_setStage_self (World.lt_length_of_stage_ne_failed (by simp [hs]))]
      exact .abandoned hs
    · rw [World.stage_setStage_of_ne hb]
      exact .kept rfl
  · exact .kept rfl

lemma StageRule.of_shutdown (w : World) (b b' : Nat) :
    StageRule w b (.shutdown b') .done ((w.shutdown b').stage b) := by
  cases hc : w.container? b' with
  | none =>
    rw [World.shutdown_of_none hc]
    exact .kept rfl
  | some c =>
    have hs : (w.shutdown b').stage b = (w.setStage b' .stopped).stage b := by
      simp only [World.stage, World.stages_shutdown hc]
    rw [hs]
    by_cases hb : b = b'
    · subst hb
      rw [World.stage_setStage_self (World.lt_length_of_container? hc)]
      exact .stopped (World.container?_eq_some_iff.1 hc)
    · rw [World.stage_setStage_of_ne hb]
      exact .kept rfl

lemma StageRule.of_stages_eq {w w' : World} {b : Nat} {s : Step} {r : StepResult}
    (h : w'.stages = w.stages) (hc : acceptedCall? b s r = none) :
    StageRule w b s r (w'.stage b) := by
  have hs : w'.stage b = w.stage b := by simp only [World.stage, h]
  rw [hs]
  exact .kept hc

/-- A step does to the stage of a builder what one of the rules says. -/
theorem StageRule.of_step (w : World) (b : Nat) (s : Step) :
    StageRule w b s (w.step s).2 ((w.step s).1.stage b) := by
  cases s with
  | call b' c => exact .of_call w b b' c
  | poll b' params => exact .of_poll w b b' params
  | abandon b' => exact .of_abandon w b b'
  | shutdown b' => exact .of_shutdown w b b'
  | newBuilder =>
    change StageRule w b .newBuilder _ (w.newBuilder.1.stage b)
    by_cases hb : b = w.stages.length
    · rw [hb, World.stage_newBuilder_self]
      exact .made rfl
    · rw [World.stage_newBuilder_of_ne hb]
      exact .kept rfl
  | reserve r id => exact .of_stages_eq (w.stages_reserve r id) rfl
  | dropLease l => exact .of_stages_eq (w.stages_dropLease l) rfl
  | produce bean => exact .of_stages_eq (w.stages_produce bean) rfl
  | fire b' name payload => exact .of_stages_eq (w.stages_fire b' name payload) rfl
  | _ => exact .kept rfl

/-- A call that is accepted extends a deployment. -/
lemma StageRule.exists_of_acceptedCall? {w : World} {b : Nat} {s : Step} {r : StepResult}
    {t : Stage} {c : Call} (h : StageRule w b s r t) (hc : acceptedCall? b s r = some c) :
    ∃ d, w.stage b = .configuring d ∧ t = .configuring (d.apply c) := by
  cases h with
  | called hd =>
    rw [acceptedCall?, if_pos rfl, Option.some.injEq] at hc
    exact ⟨_, hd, by rw [hc]⟩
  | kept hn => cases hn.symm.trans hc
  | _ => cases hc

/-- A builder that can be configured and to which no call has been made could be configured before,
or is new. -/
lemma StageRule.configuring {w : World} {b : Nat} {s : Step} {r : StepResult} {d : Deployment}
    (h : StageRule w b s r (.configuring d)) (hc : acceptedCall? b s r = none) :
    w.stage b = .configuring d ∨ b = w.stages.length ∧
      d = { environment := w.environments.length, registry := World.globalRegistry } := by
  generalize ht : Stage.configuring d = t at h
  cases h with
  | kept => exact .inl rfl
  | made hb => exact .inr ⟨hb, Stage.configuring.inj ht⟩
  | called hd => simp [acceptedCall?] at hc
  | _ => cases ht

/-- A builder whose start waits has been waiting before, or has just been polled. -/
lemma StageRule.bootstrapping {w : World} {b : Nat} {s : Step} {r : StepResult} {st : Bootstrap}
    {p : Pending} (h : StageRule w b s r (.bootstrapping st p)) :
    w.stage b = .bootstrapping st p ∨
      ∃ params asked, s = .poll b params ∧ w.progress? b params = some (st, asked, .waiting p) := by
  generalize ht : Stage.bootstrapping st p = t at h
  cases h with
  | kept => exact .inl rfl
  | waits hp =>
    obtain ⟨rfl, rfl⟩ := Stage.bootstrapping.inj ht
    exact .inr ⟨_, _, rfl, hp⟩
  | _ => cases ht

/-- What calls say is what a builder has been made into, as long as there is a deployment or a
container. -/
def Stage.IsMadeOf (calls : List Call) : Stage → Prop
  | .configuring d => d.Accumulates calls
  | .bootstrapping s _ => s.deployment.Accumulates calls
  | .running c => ∃ (s : Bootstrap) (b : Nat) (f : Findings),
    s.deployment.Accumulates calls ∧ c = ⟨s.model b f, s.lease?⟩
  | .stopped | .failed => True

lemma World.accumulates_of_progress? {w : World} {b : Nat} {params : Properties} {s : Bootstrap}
    {r : List Scan × Progress} {calls : List Call} (hw : (w.stage b).IsMadeOf calls)
    (h : w.progress? b params = some (s, r)) : s.deployment.Accumulates calls := by
  rcases progress?_cases h with ⟨d, hd, -, rfl, -⟩ | ⟨p, hs, -⟩
  · rwa [hd] at hw
  · rwa [hs] at hw

/-- What a builder is made of changes with accepted calls only. -/
lemma StageRule.isMadeOf {w : World} {b : Nat} {s : Step} {r : StepResult} {t : Stage}
    {calls : List Call} (h : StageRule w b s r t) (hc : acceptedCall? b s r = none)
    (hw : (w.stage b).IsMadeOf calls) (hnew : w.stages.length ≤ b → calls = []) :
    t.IsMadeOf calls := by
  cases h with
  | kept => exact hw
  | made hb =>
    rw [hnew (Nat.le_of_eq hb.symm)]
    exact Deployment.accumulates_nil _
  | called => simp [acceptedCall?] at hc
  | waits hp => exact World.accumulates_of_progress? hw hp
  | launched hp => exact ⟨_, _, _, World.accumulates_of_progress? hw hp, rfl⟩
  | _ => trivial

namespace World

lemma length_stages_step (w : World) (s : Step) :
    w.stages.length ≤ (w.step s).1.stages.length := by
  cases s with
  | newBuilder => simp [step, yielding, newBuilder, addEnvironment]
  | reserve r id => simp [step, yielding]
  | dropLease n => simp [step]
  | produce bean => simp [step, yielding]
  | call b c => simp [step, yielding]
  | poll b params => simp [step, yielding]
  | abandon b => simp [step]
  | fire b name payload => simp [step]
  | shutdown b => simp [step]
  | _ => exact Nat.le_refl _

lemma length_run (w : World) (steps : List Step) : steps.length = (w.run steps).2.length := by
  induction steps generalizing w with
  | nil => rfl
  | cons s ss ih => simp [← ih]

/-- The calls on a builder are what it is made of. -/
structure ConfiguredBy (w : World) (b : Nat) (calls : List Call) : Prop where
  isMadeOf : (w.stage b).IsMadeOf calls
  /-- There are no calls on a builder that has not been made. -/
  unmade : w.stages.length ≤ b → calls = []

lemma ConfiguredBy.step {w : World} {b : Nat} {calls : List Call} (h : w.ConfiguredBy b calls)
    (s : Step) :
    (w.step s).1.ConfiguredBy b (calls ++ (acceptedCall? b s (w.step s).2).toList) := by
  have hrule := StageRule.of_step w b s
  cases hc : acceptedCall? b s (w.step s).2 with
  | some c =>
    obtain ⟨d, hd, ht⟩ := hrule.exists_of_acceptedCall? hc
    have hmade := h.isMadeOf
    rw [hd] at hmade
    constructor
    · rw [ht]
      exact Deployment.Accumulates.apply hmade c
    · intro hb
      have hlt : b < w.stages.length := lt_length_of_configuring hd
      exact absurd (Nat.le_trans (w.length_stages_step s) hb) (Nat.not_le_of_lt hlt)
  | none =>
    rw [Option.toList_none, List.append_nil]
    constructor
    · exact hrule.isMadeOf hc h.isMadeOf h.unmade
    · intro hb
      exact h.unmade (Nat.le_trans (w.length_stages_step s) hb)

lemma ConfiguredBy.run {w : World} {b : Nat} {calls : List Call} (h : w.ConfiguredBy b calls)
    (steps : List Step) :
    (w.run steps).1.ConfiguredBy b (calls ++ acceptedCalls b steps (w.run steps).2) := by
  induction steps generalizing w calls with
  | nil => simpa [acceptedCalls] using h
  | cons s ss ih =>
    rw [run_cons, acceptedCalls_cons, ← List.append_assoc]
    exact ih (h.step s)

lemma configuredBy_run (steps : List Step) (b : Nat) :
    (({} : World).run steps).1.ConfiguredBy b
      (acceptedCalls b steps (({} : World).run steps).2) := by
  have h : ({} : World).ConfiguredBy b [] := ⟨by simp [stage, Stage.IsMadeOf], fun _ => rfl⟩
  exact h.run steps

/-- What a builder is made of is what the calls on it say that were accepted. -/
theorem isMadeOf_run (steps : List Step) (b : Nat) :
    ((({} : World).run steps).1.stage b).IsMadeOf
      (acceptedCalls b steps (({} : World).run steps).2) :=
  (configuredBy_run steps b).isMadeOf

/-- The deployment of a builder that can be configured is what the calls on it say that were
accepted. -/
theorem accumulates_run {steps : List Step} {b : Nat} {d : Deployment}
    (hd : (({} : World).run steps).1.stage b = .configuring d) :
    d.Accumulates (acceptedCalls b steps (({} : World).run steps).2) := by
  have h := isMadeOf_run steps b
  rwa [hd] at h

/-! ### One call after the other -/

/-- A call that is accepted has no fault. -/
lemma fault?_of_acceptedCall? {w : World} {b : Nat} {s : Step} {c : Call}
    (h : acceptedCall? b s (w.step s).2 = some c) : c.fault? = none := by
  cases s with
  | call b' c' =>
    change acceptedCall? b (.call b' c') (.called (w.call b' c').2) = some c at h
    rcases w.call_cases b' c' with ⟨d, -, hf, hc⟩ | ⟨e, hc⟩
    · rw [hc, acceptedCall?, Option.ite_none_right_eq_some] at h
      exact Option.some.inj h.2 ▸ hf
    · rw [hc] at h
      cases h
  | _ => cases h

/-- A call that is refused makes no difference to a run. -/
lemma run_of_refused {w : World} {before rest : List Step} {b : Nat} {c : Call}
    {e : BootstrapError} (h : ((w.run before).1.call b c).2 = .error e) :
    (w.run (before ++ .call b c :: rest)).1 = (w.run (before ++ rest)).1 := by
  have hsame : ((w.run before).1.step (.call b c)).1 = (w.run before).1 := by
    show ((w.run before).1.call b c).1 = _
    rcases (w.run before).1.call_cases b c with ⟨d, -, -, hc⟩ | ⟨e', hc⟩
    · rw [hc] at h
      cases h
    · rw [hc]
  rw [run_append, run_append, run_cons, hsame]

/-- What holds of a new deployment, and is kept by every call that has no fault, holds of the
deployment of every builder that can be configured. -/
theorem configuring_induction {P : List Call → Deployment → Prop}
    (hnew : ∀ environment, P [] { environment, registry := globalRegistry })
    (hcall : ∀ calls d c, P calls d → c.fault? = none → P (calls ++ [c]) (d.apply c))
    {steps : List Step} {b : Nat} {d : Deployment}
    (hd : (({} : World).run steps).1.stage b = .configuring d) :
    P (acceptedCalls b steps (({} : World).run steps).2) d := by
  induction steps using List.reverseRecOn generalizing d with
  | nil => cases hd
  | append_singleton ss s ih =>
    have hrule := StageRule.of_step (({} : World).run ss).1 b s
    have hstep : (({} : World).run (ss ++ [s])).1 = ((({} : World).run ss).1.step s).1 := by
      rw [run_append, run_cons, run_nil]
    rw [hstep] at hd
    rw [run_append, acceptedCalls_append b (length_run _ ss), run_cons, acceptedCalls_cons]
    cases hc : acceptedCall? b s ((({} : World).run ss).1.step s).2 with
    | some c =>
      obtain ⟨d', hd', ht⟩ := hrule.exists_of_acceptedCall? hc
      obtain rfl := Stage.configuring.inj (hd.symm.trans ht)
      exact hcall _ _ _ (ih hd') (fault?_of_acceptedCall? hc)
    | none =>
      rw [hd] at hrule
      rcases hrule.configuring hc with hd' | ⟨hb, rfl⟩
      · simpa [acceptedCalls] using ih hd'
      · rw [(configuredBy_run ss b).unmade (Nat.le_of_eq hb.symm)]
        exact hnew _

/-- The calls that a builder has accepted have no faults. -/
lemma fault?_of_mem_acceptedCalls {steps : List Step} {b : Nat} {d : Deployment}
    (hd : (({} : World).run steps).1.stage b = .configuring d) :
    ∀ c ∈ acceptedCalls b steps (({} : World).run steps).2, c.fault? = none := by
  refine configuring_induction (P := fun calls _ => ∀ c ∈ calls, c.fault? = none)
    (fun _ => List.forall_mem_nil _) ?_ hd
  intro calls _ c h hc c' hc'
  rcases List.mem_append.1 hc' with hc' | hc'
  · exact h c' hc'
  · rw [List.mem_singleton.1 hc']
    exact hc

end World

end BeanContainer
