import BeanContainer.Proofs.Discovery.Outcome
import BeanContainer.Proofs.Lifecycle.Configuration
/-!
# Starts that are still going on

A start is settled when it begins: which deployment, loader and host it is about, and with them what
its scans are going to amount to. Whatever happens between two polls, classes registered and loaders
closed included, makes no difference to that (`World.Pursues.step`), because only a host of its own
ever makes a start wait. So the poll that ends a start ends it with what its host answers to its
scans (`World.InProgress.progress?`).
-/

namespace BeanContainer

/-- The class that a step registers with an environment, if it does. -/
def Step.registration? (environment : Nat) : Step → Option IndexedClass
  | .registerClass e entry => if e = environment then some entry else none
  | _ => none

namespace World

/-! ### Hosts that stay -/

lemma host_of_hosted {w : World} {e : Nat} {h : Host}
    (he : w.environments[e]? = some (.hosted h)) : w.host e = h := by
  simp [host, he, Environment.host]

/-- An environment that makes anybody wait is a host of its own. -/
lemma hosted_of_not_isPrompt {w : World} {e : Nat} (h : ¬ (w.host e).IsPrompt) :
    w.environments[e]? = some (.hosted (w.host e)) := by
  rw [host] at h ⊢
  cases he : w.environments[e]? with
  | none => simp [he, Host.isPrompt_empty] at h
  | some env =>
    cases env with
    | indexed managed index =>
      simp [he, Environment.host, index.isPrompt_host managed] at h
    | hosted h' => rfl

/-- An environment changes only by the classes that are registered with it. -/
lemma environment_step {w : World} {e : Nat} {env : Environment}
    (he : w.environments[e]? = some env) (s : Step) :
    (w.step s).1.environments[e]? =
      some ((s.registration? e).elim env fun entry => env.register entry) := by
  have hlt : e < w.environments.length := (List.getElem?_eq_some_iff.1 he).1
  cases s with
  | addEnvironment env' =>
    show (w.environments ++ [env'])[e]? = _
    rw [List.getElem?_append_left hlt, he]
    rfl
  | newBuilder =>
    show (w.environments ++ [_])[e]? = _
    rw [List.getElem?_append_left hlt, he]
    rfl
  | registerClass e' entry =>
    show (w.environments.modify e' (Environment.register entry))[e]? = _
    rw [List.getElem?_modify, he, Step.registration?]
    split <;> rfl
  | reserve r id =>
    rw [step, yielding, environments_reserve, he]
    rfl
  | dropLease n =>
    rw [step, environments_dropLease, he]
    rfl
  | produce bean =>
    rw [step, yielding, environments_produce, he]
    rfl
  | call b c =>
    rw [step, yielding, environments_call, he]
    rfl
  | poll b params =>
    rw [step, yielding, environments_poll, he]
    rfl
  | abandon b =>
    rw [step, environments_abandon, he]
    rfl
  | fire b name payload =>
    rw [step, environments_fire, he]
    rfl
  | shutdown b =>
    rw [step, environments_shutdown, he]
    rfl
  | _ => exact he

/-- A host of its own never changes. -/
lemma hosted_step {w : World} {e : Nat} {h : Host} (he : w.environments[e]? = some (.hosted h))
    (s : Step) : (w.step s).1.environments[e]? = some (.hosted h) := by
  rw [environment_step he]
  cases s.registration? e <;> rfl

/-! ### Builders that have been polled -/

/-- A builder that was made cannot be configured any more: its start has begun. -/
structure HasBegun (w : World) (b : Nat) : Prop where
  made : b < w.stages.length
  begun : ∀ d, w.stage b ≠ .configuring d

/-- A start that has begun remains so. -/
lemma HasBegun.step {w : World} {b : Nat} (h : w.HasBegun b) (st : Step) :
    (w.step st).1.HasBegun b := by
  have hrule := StageRule.of_step w b st
  refine ⟨Nat.lt_of_lt_of_le h.made (w.length_stages_step st), ?_⟩
  intro d hd
  cases hc : acceptedCall? b st (w.step st).2 with
  | some c =>
    obtain ⟨d', hd', -⟩ := hrule.exists_of_acceptedCall? hc
    exact h.begun d' hd'
  | none =>
    rw [hd] at hrule
    rcases hrule.configuring hc with hd' | ⟨hb, -⟩
    · exact h.begun d hd'
    · exact Nat.ne_of_lt h.made hb

lemma HasBegun.run {w : World} {b : Nat} (h : w.HasBegun b) (steps : List Step) :
    (w.run steps).1.HasBegun b := by
  induction steps generalizing w with
  | nil => exact h
  | cons st ss ih => exact ih (h.step st)

/-- Every poll of a builder that was made begins a start, or finds it begun. -/
lemma hasBegun_poll {w : World} {b : Nat} (hb : b < w.stages.length) (params : Properties) :
    (w.poll b params).1.HasBegun b := by
  refine ⟨by rwa [length_stages_poll], ?_⟩
  intro d hd
  generalize hr : w.poll b params = r at hd
  cases PollRule.of_poll hr with
  | spent he => simp [spent?, hd] at he
  | managed => cases (stage_setStage_self hb .failed).symm.trans hd
  | waits => cases (stage_setStage_self (by exact hb) _).symm.trans hd
  | refused => cases (stage_setStage_self (by exact hb) _).symm.trans hd
  | launched => cases (stage_launch_self (by exact hb) _ _).symm.trans hd

/-- A builder whose start has begun refuses every call, and nothing changes. -/
lemma HasBegun.exists_call_eq {w : World} {b : Nat} (h : w.HasBegun b) (c : Call) :
    ∃ e, w.call b c = (w, .error (.illegalState e)) := by
  obtain ⟨e, he⟩ := exists_call_eq_of_used h.begun
  exact ⟨e, he c⟩

/-! ### What does not change while a start waits -/

/-- A builder has begun a start, and as long as that waits, it is going to amount to what the host
answers to its scans. -/
structure Pursues (w : World) (b : Nat) (s : Bootstrap) (h : Host) : Prop where
  made : b < w.stages.length
  begun : ∀ d, w.stage b ≠ .configuring d
  waits : ∀ s' p, w.stage b = .bootstrapping s' p →
    s' = s ∧ w.environments[s.deployment.environment]? = some (.hosted h) ∧
      p.outcome h s.loader = h.findings s.loader s.scans

lemma progress?_of_bootstrapping {w : World} {b : Nat} {s : Bootstrap} {p : Pending}
    (hs : w.stage b = .bootstrapping s p) (params : Properties) :
    w.progress? b params =
      some (s, p.resume (w.host s.deployment.environment) s.loader) := by
  simp [progress?, hs]

/-- A start that waits is polled with the host that it began with. -/
lemma Pursues.progress? {w : World} {b : Nat} {s : Bootstrap} {h : Host} (hw : w.Pursues b s h)
    {params : Properties} {s' : Bootstrap} {r : List Scan × Progress}
    (hp : w.progress? b params = some (s', r)) :
    s' = s ∧ w.environments[s.deployment.environment]? = some (.hosted h) ∧
      r.2.outcome h s.loader = h.findings s.loader s.scans := by
  rcases progress?_cases hp with ⟨d, hd, -⟩ | ⟨p, hs, rfl⟩
  · exact absurd hd (hw.begun d)
  · obtain ⟨rfl, henv, hout⟩ := hw.waits s' p hs
    refine ⟨rfl, henv, ?_⟩
    rw [host_of_hosted henv, Pending.outcome_resume, hout]

/-- Nothing that happens changes what a start is going to amount to. -/
theorem Pursues.step {w : World} {b : Nat} {s : Bootstrap} {h : Host} (hw : w.Pursues b s h)
    (st : Step) : (w.step st).1.Pursues b s h := by
  have hbegun : (w.step st).1.HasBegun b := HasBegun.step ⟨hw.made, hw.begun⟩ st
  refine ⟨hbegun.made, hbegun.begun, ?_⟩
  intro s' p hs
  have hrule := StageRule.of_step w b st
  rw [hs] at hrule
  rcases hrule.bootstrapping with hs' | ⟨params, asked, -, hp⟩
  · obtain ⟨rfl, henv, hout⟩ := hw.waits s' p hs'
    exact ⟨rfl, hosted_step henv st, hout⟩
  · obtain ⟨rfl, henv, hout⟩ := hw.progress? hp
    exact ⟨rfl, hosted_step henv st, hout⟩

lemma Pursues.run {w : World} {b : Nat} {s : Bootstrap} {h : Host} (hw : w.Pursues b s h)
    (steps : List Step) : (w.run steps).1.Pursues b s h := by
  induction steps generalizing w with
  | nil => exact hw
  | cons st ss ih => exact ih (hw.step st)

/-! ### From the first poll to the last -/

/-- The start that the first poll of a builder begins. -/
def startOf (w : World) (d : Deployment) (params : Properties) : Bootstrap :=
  .start d params (w.host d.environment) w.isClosed

lemma progress?_of_configuring {w : World} {b : Nat} {d : Deployment} {params : Properties}
    (hd : w.stage b = .configuring d) (hm : (w.host d.environment).managed = false) :
    let s := w.startOf d params
    w.progress? b params = some (s, (w.host d.environment).ask s.loader {} s.scans) := by
  simp [progress?, hd, hm, startOf]

lemma stage_poll_of_waiting {w : World} {b : Nat} {params : Properties} {s : Bootstrap}
    {asked : List Scan} {p : Pending}
    (h : w.progress? b params = some (s, asked, .waiting p)) :
    (w.poll b params).1.stage b = .bootstrapping s p := by
  rw [poll_of_progress? h]
  exact stage_setStage_self (by exact lt_length_of_progress? h) _

/-- A poll that finishes a discovery uses the builder up. -/
lemma registryNumber?_stage_poll_of_finished {w : World} {b : Nat} {params : Properties}
    {s : Bootstrap} {asked : List Scan} {f : Findings}
    (h : w.progress? b params = some (s, asked, .finished f)) :
    ((w.poll b params).1.stage b).registryNumber? = none := by
  have hb := lt_length_of_progress? h
  by_cases hp : s.problems f (w.registries s.deployment.registry) = []
  · rw [poll_of_eq_nil h hp, stage_launch_self (by exact hb)]
    rfl
  · rw [poll_of_ne_nil h hp, stage_setStage_self (by exact hb)]
    rfl

/-- The first poll begins a start. -/
lemma pursues_of_configuring {w : World} {b : Nat} {d : Deployment} (params : Properties)
    (hd : w.stage b = .configuring d) (hm : (w.host d.environment).managed = false) :
    (w.poll b params).1.Pursues b (w.startOf d params) (w.host d.environment) := by
  have hb : b < w.stages.length := lt_length_of_configuring hd
  have hbegun : (w.poll b params).1.HasBegun b := hasBegun_poll hb params
  have hp : w.progress? b params = some (w.startOf d params, _) :=
    progress?_of_configuring hd hm
  set s := w.startOf d params
  set h := w.host d.environment
  refine ⟨hbegun.made, hbegun.begun, ?_⟩
  intro s' p hs
  cases hr : (h.ask s.loader {} s.scans).2 with
  | finished f =>
    have ht := registryNumber?_stage_poll_of_finished (hp.trans (by rw [← hr]))
    cases hs ▸ ht
  | waiting p' =>
    have ht := stage_poll_of_waiting (hp.trans (by rw [← hr]))
    obtain ⟨rfl, rfl⟩ := Stage.bootstrapping.inj (hs.symm.trans ht)
    refine ⟨rfl, ?_, ?_⟩
    · rw [environments_poll]
      exact hosted_of_not_isPrompt fun hprompt => hprompt.ask_ne_waiting _ _ _ _ hr
    · have hout := h.outcome_ask s.loader {} s.scans
      rwa [hr, Findings.empty_append] at hout

/-- The start that a builder begins in a world with its first poll is about to be polled in
another: for the first time, or because it is still waiting there. -/
def InProgress (w₀ : World) (b : Nat) (params : Properties) (w : World) : Prop :=
  w = w₀ ∨ ∃ steps s pending,
    w = (w₀.run (.poll b params :: steps)).1 ∧ w.stage b = .bootstrapping s pending

/-- A start goes on as it was begun, and is going to amount to what its host answers. -/
theorem InProgress.progress? {w₀ w : World} {b : Nat} {d : Deployment} {params : Properties}
    (hw : w₀.InProgress b params w) (hd : w₀.stage b = .configuring d)
    (hm : (w₀.host d.environment).managed = false) :
    let s := w₀.startOf d params
    let h := w₀.host d.environment
    ∃ r, w.progress? b params = some (s, r) ∧
      r.2.outcome h s.loader = h.findings s.loader s.scans := by
  intro s h
  rcases hw with rfl | ⟨steps, s', p, rfl, hs⟩
  · refine ⟨_, progress?_of_configuring hd hm, ?_⟩
    rw [Host.outcome_ask, Findings.empty_append]
  · have hpur := (pursues_of_configuring params hd hm).run steps
    have hp := progress?_of_bootstrapping hs params
    obtain ⟨rfl, -, hout⟩ := hpur.progress? hp
    exact ⟨_, hp, hout⟩

/-- The poll that ends a start ends it with everything that the host has answered. -/
theorem InProgress.progress?_of_ready {w₀ w : World} {b : Nat} {d : Deployment}
    {params : Properties} (hw : w₀.InProgress b params w) (hd : w₀.stage b = .configuring d)
    (hm : (w₀.host d.environment).managed = false) {outcome : Except BootstrapError Model}
    (hr : (w.poll b params).2 = .ready outcome) :
    let s := w₀.startOf d params
    ∃ asked, w.progress? b params =
      some (s, asked, .finished ((w₀.host d.environment).findings s.loader s.scans)) := by
  intro s
  obtain ⟨⟨asked, progress⟩, hp, hout⟩ := hw.progress? hd hm
  rw [poll_of_progress? hp] at hr
  cases progress with
  | waiting p => cases hr
  | finished f =>
    obtain rfl : f = _ := hout
    exact ⟨asked, hp⟩

end World

end BeanContainer
