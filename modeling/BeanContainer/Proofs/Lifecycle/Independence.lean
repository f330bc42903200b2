import BeanContainer.Proofs.Lifecycle.Loaders
import BeanContainer.Proofs.Lifecycle.Story
/-!
# Starts that take turns

Builders that want different identifiers do not get into each other's way. Whatever turns they take,
a start that comes to its end has the outcome that it would have had alone and with all answers at
once, and its extensions are told the same. What others do in their turns leaves the hosts, the
loaders and the identifier alone, and how long its own host makes it wait makes no difference.
-/

namespace BeanContainer

/-- The builder whose turn a step is: its start is polled or abandoned, or its container is used or
shut down. -/
def Step.builder? : Step → Option Nat
  | .poll b _ | .abandon b | .fire b _ _ | .shutdown b => some b
  | _ => none

/-- The lease that a deployment asks for. -/
def Deployment.lease? (d : Deployment) : Option Lease := d.containerId.map (⟨d.registry, ·⟩)

/-- The lease that a builder is going to ask for. -/
def Stage.wanted? : Stage → Option Lease
  | .configuring d => d.lease?
  | .bootstrapping s _ => s.lease?
  | _ => none

/-- What a container tells depends on what is done to it alone. -/
lemma newsOf_filter (b : Nat) (containerId : Option String) (steps : List Step) :
    newsOf b containerId (steps.filter fun s => s.builder? = some b) =
      newsOf b containerId steps := by
  induction steps with
  | nil => rfl
  | cons s ss ih =>
    by_cases hs : s.builder? = some b
    · rw [List.filter_cons_of_pos (by simpa using hs), newsOf, newsOf, ih]
    · have hdown : s.isShutdownOf b = false := by
        cases s <;> simp_all [Step.builder?, Step.isShutdownOf]
      have hfired : s.fired? b = none := by
        cases s <;> simp_all [Step.builder?, Step.fired?]
      rw [List.filter_cons_of_neg (by simpa using hs), ih, newsOf, hdown, hfired]
      rfl

/-- An environment that gives the same answers at once. -/
def Environment.prompt : Environment → Environment
  | .indexed managed index => .indexed managed index
  | .hosted h => .hosted h.prompt

namespace World

variable {w : World} {b : Nat} {d : Deployment} {params : Properties}

/-! ### The world with all answers at once -/

/-- The same world, in which no host makes anybody wait. -/
def promptly (w : World) : World :=
  { w with environments := w.environments.map Environment.prompt }

lemma host_promptly (w : World) (e : Nat) : w.promptly.host e = (w.host e).prompt := by
  have henv : ∀ env : Environment, env.prompt.host = env.host.prompt := by
    intro env
    cases env <;> rfl
  simp only [host, promptly, List.getElem?_map]
  cases w.environments[e]? with
  | none => rfl
  | some env => exact henv env

lemma host_congr {v : World} (h : v.environments = w.environments) (e : Nat) :
    v.host e = w.host e := by
  simp only [host, h]

/-- What a start is about depends on hosts and loaders alone. -/
lemma startOf_congr {v : World} (henv : v.environments = w.environments)
    (hclosed : v.closed = w.closed) : v.startOf d params = w.startOf d params := by
  have hc : v.isClosed = w.isClosed := by
    funext l
    simp only [isClosed, hclosed]
  rw [startOf, host_congr henv, hc, startOf]

lemma startOf_promptly (w : World) (d : Deployment) (params : Properties) :
    w.promptly.startOf d params = w.startOf d params := by
  rw [startOf, host_promptly]
  rfl

/-- In a world without delays, the first poll finishes the discovery. -/
lemma progress?_promptly (hd : w.stage b = .configuring d)
    (hm : (w.host d.environment).managed = false)
    (hr : ∀ loader scan, (w.host d.environment).reply loader scan ≠ .never)
    (params : Properties) :
    let s := w.startOf d params
    ∃ asked, w.promptly.progress? b params =
      some (s, asked, .finished ((w.host d.environment).findings s.loader s.scans)) := by
  intro s
  have hd' : w.promptly.stage b = .configuring d := hd
  have hm' : (w.promptly.host d.environment).managed = false := by
    rw [host_promptly]
    exact hm
  have hfin : ((w.host d.environment).prompt.ask s.loader {} s.scans).2 =
      .finished ((w.host d.environment).findings s.loader s.scans) := by
    rw [(Host.isPrompt_prompt hr).ask_eq_finished, Host.findings_prompt]
  refine ⟨((w.host d.environment).prompt.ask s.loader {} s.scans).1, ?_⟩
  rw [progress?_of_configuring hd' hm', startOf_promptly, host_promptly, ← hfin]

/-! ### What a turn leaves alone -/

/-- A turn leaves the hosts alone. -/
lemma environments_turn {s : Step} (hs : s.builder? = some b) :
    (w.step s).1.environments = w.environments := by
  cases s with
  | poll b' params => exact environments_poll w b' params
  | abandon b' => exact environments_abandon w b'
  | fire b' name payload => exact environments_fire w b' name payload
  | shutdown b' => exact environments_shutdown w b'
  | _ => cases hs

/-- A turn closes no loader. -/
lemma closed_turn {s : Step} (hs : s.builder? = some b) : (w.step s).1.closed = w.closed := by
  refine closed_step ?_
  rintro l rfl
  cases hs

lemma wanted?_of_progress? {s : Bootstrap} {r : List Scan × Progress}
    (h : w.progress? b params = some (s, r)) : (w.stage b).wanted? = s.lease? := by
  rcases progress?_cases h with ⟨d, hd, -, rfl, -⟩ | ⟨p, hs, -⟩
  · rw [hd]
    rfl
  · rw [hs]
    rfl

/-- A turn makes nobody want an identifier. -/
lemma wanted?_turn {s : Step} (hs : s.builder? = some b) {b' : Nat} {l : Lease}
    (h : ((w.step s).1.stage b').wanted? = some l) : (w.stage b').wanted? = some l := by
  have hrule := StageRule.of_step w b' s
  generalize (w.step s).1.stage b' = t, (w.step s).2 = r at hrule h
  cases hrule with
  | kept => exact h
  | waits hp => exact (wanted?_of_progress? hp).trans h
  | made => cases hs
  | called => cases hs
  | _ => cases h

/-- An identifier that is held after a turn was held before, or the builder whose turn it was wanted
it and has been used up. -/
lemma mem_held_turn {s : Step} (hs : s.builder? = some b) {r : Nat} {id : String}
    (h : id ∈ ((w.step s).1.registries r).held) :
    id ∈ (w.registries r).held ∨
      (w.stage b).wanted? = some ⟨r, id⟩ ∧ (w.step s).1.IsSpent b := by
  cases s with
  | poll b' params =>
    obtain rfl : b' = b := Option.some.inj hs
    by_cases hok : ∃ model, (w.poll b' params).2 = .ready (.ok model)
    · obtain ⟨model, hr⟩ := hok
      obtain ⟨s, asked, f, hp, hnil, -⟩ := exists_progress?_of_started hr
      change id ∈ ((w.poll b' params).1.registries r).held at h
      rw [poll_of_eq_nil hp hnil, mem_held_launch] at h
      rcases h with h | h
      · exact .inl h
      · exact .inr ⟨(wanted?_of_progress? hp).trans h, isSpent_poll_of_finished hp⟩
    · have hreg := registries_poll (not_exists.1 hok)
      rw [← hreg]
      exact .inl h
  | abandon b' =>
    rw [← registries_abandon w b']
    exact .inl h
  | fire b' name payload =>
    have hreg : (w.fire b' name payload).registries = w.registries := by
      rw [fire]
      split <;> rfl
    rw [← hreg]
    exact .inl h
  | shutdown b' =>
    cases hc : w.container? b' with
    | none =>
      rw [← shutdown_of_none hc]
      exact .inl h
    | some c => exact .inl ((mem_held_shutdown hc).1 h).1
  | _ => cases hs

/-- A lease that nobody else wants stays free as long as the builder that wants it goes on. -/
lemma not_mem_held_run {steps : List Step} {l : Lease}
    (hturns : ∀ s ∈ steps, ∃ b', s.builder? = some b')
    (hothers : ∀ s ∈ steps, ∀ b', s.builder? = some b' → b' ≠ b →
      (w.stage b').wanted? ≠ some l)
    (hfree : l.id ∉ (w.registries l.registry).held) (hb : ¬ (w.run steps).1.IsSpent b) :
    l.id ∉ ((w.run steps).1.registries l.registry).held := by
  induction steps generalizing w with
  | nil => exact hfree
  | cons s ss ih =>
    -- a turn of `b` takes the lease only by using `b` up, and nobody else wants it
    obtain ⟨b₁, hs⟩ := hturns s List.mem_cons_self
    refine ih (fun s' hs' => hturns s' (List.mem_cons_of_mem s hs')) ?_ ?_ hb
    · intro s' hs' b' hb' hne hw
      exact hothers s' (List.mem_cons_of_mem s hs') b' hb' hne (wanted?_turn hs hw)
    · intro hheld
      rcases mem_held_turn hs hheld with hheld | ⟨hw, hspent⟩
      · exact hfree hheld
      · by_cases hne : b₁ = b
        · subst hne
          exact hb (hspent.run ss)
        · exact hothers s List.mem_cons_self b₁ hs hne hw

/-! ### Starts among others -/

/-- A builder stays as it is until it is polled. -/
lemma stage_turn_of_configuring {s : Step} (hd : w.stage b = .configuring d) {b' : Nat}
    (hs : s.builder? = some b') (hpoll : ∀ params, s ≠ .poll b params) :
    (w.step s).1.stage b = .configuring d := by
  have hrule := StageRule.of_step w b s
  generalize (w.step s).1.stage b = t, (w.step s).2 = r at hrule
  cases hrule with
  | kept => exact hd
  | made => cases hs
  | called => cases hs
  | abandoned hb => cases hd.symm.trans hb
  | stopped hb => cases hd.symm.trans hb
  | _ => exact absurd rfl (hpoll _)

/-- A builder that is not used up after turns in which it has been polled is waiting. -/
lemma exists_bootstrapping_of_polled {steps : List Step} (hd : w.stage b = .configuring d)
    (hb : ¬ (w.run (.poll b params :: steps)).1.IsSpent b) :
    ∃ s p, (w.run (.poll b params :: steps)).1.stage b = .bootstrapping s p := by
  have hm : (w.host d.environment).managed = false := by
    by_contra hm
    refine hb (IsSpent.run ?_ steps)
    exact (isSpent_poll_of_managed hd (by simpa using hm) params).1
  have hpur := (pursues_of_configuring params hd hm).run steps
  cases hs : (w.run (.poll b params :: steps)).1.stage b with
  | configuring d' => exact absurd hs (hpur.begun d')
  | bootstrapping s p => exact ⟨s, p, rfl⟩
  | _ => exact absurd ⟨hpur.made, by rw [hs]; rfl⟩ hb

/-- A builder that takes turns with others and is not used up has a start that is in progress since
a world with the same hosts and loaders. -/
lemma inProgress_of_turns {steps : List Step} (hd : w.stage b = .configuring d)
    (hturns : ∀ s ∈ steps, ∃ b', s.builder? = some b')
    (hparams : ∀ params', .poll b params' ∈ steps → params' = params)
    (hb : ¬ (w.run steps).1.IsSpent b) :
    ∃ w₁ : World, w₁.stage b = .configuring d ∧ w₁.environments = w.environments ∧
      w₁.closed = w.closed ∧ w₁.InProgress b params (w.run steps).1 := by
  -- the induction goes to the first poll of `b`, and no turn up to there changes hosts or loaders
  induction steps generalizing w with
  | nil => exact ⟨w, hd, rfl, rfl, .inl rfl⟩
  | cons s ss ih =>
    by_cases hpoll : s = .poll b params
    · subst hpoll
      obtain ⟨s, p, hs⟩ := exists_bootstrapping_of_polled hd hb
      exact ⟨w, hd, rfl, rfl, .inr ⟨ss, s, p, rfl, hs⟩⟩
    · obtain ⟨b₁, hs⟩ := hturns s List.mem_cons_self
      have hd' : (w.step s).1.stage b = .configuring d := by
        refine stage_turn_of_configuring hd hs fun params' hs' => hpoll ?_
        subst hs'
        rw [hparams params' List.mem_cons_self]
      obtain ⟨w₁, hd₁, henv, hclosed, hw₁⟩ := ih hd'
        (fun s' hs' => hturns s' (List.mem_cons_of_mem s hs'))
        (fun params' hp => hparams params' (List.mem_cons_of_mem s hp)) hb
      exact ⟨w₁, hd₁, henv.trans (environments_turn hs), hclosed.trans (closed_turn hs), hw₁⟩

/-- What is told in a run in which a start finds a managed host: nothing. -/
lemma eventsOf_run_of_managed (before : List Step)
    (hd : (w.run before).1.stage b = .configuring d)
    (hm : ((w.run before).1.host d.environment).managed = true) (rest : List Step) :
    (w.run (before ++ .poll b params :: rest)).1.eventsOf b = w.eventsOf b := by
  have hbefore : w.story b before = [] :=
    World.story_eq_nil fun hspent => by cases hd ▸ hspent.used
  have hnone : (w.run before).1.progress? b params = none := progress?_of_managed hd hm params
  obtain ⟨hspent, hc⟩ := isSpent_poll_of_managed hd hm params
  have hrest : ((w.run before).1.step (.poll b params)).1.story b rest = [] :=
    IsSpent.story_eq_nil hspent hc rest
  rw [eventsOf_run, story_append, hbefore, story,
    rounds_poll_of_concluding?_eq_none (concluding?_eq_none hnone), hrest]
  exact List.append_nil _

/-! ### The same alone -/

/-- A start that finds a managed host comes to the same as alone in another world. -/
lemma managed_as_alone {v : World} {before : List Step}
    (hd : (w.run before).1.stage b = .configuring d)
    (hm : ((w.run before).1.host d.environment).managed = true)
    (hdv : v.stage b = .configuring d) (hmv : (v.host d.environment).managed = true)
    (hevents : w.eventsOf b = v.eventsOf b) (rest rest' : List Step) :
    ((w.run before).1.poll b params).2 = (v.poll b params).2 ∧
      (w.run (before ++ .poll b params :: rest)).1.eventsOf b =
        (v.run (.poll b params :: rest')).1.eventsOf b := by
  constructor
  · rw [poll_of_managed hd hm, poll_of_managed hdv hmv]
  · have halone : (v.run (.poll b params :: rest')).1.eventsOf b = v.eventsOf b :=
      eventsOf_run_of_managed (w := v) [] hdv hmv rest'
    rw [eventsOf_run_of_managed before hd hm rest, hevents, halone]

/-- A start whose identifier is free has its own problems only. -/
lemma problems_of_free {s : Bootstrap} {registries : Nat → Registry}
    (h : ∀ l, s.lease? = some l → l.id ∉ (registries l.registry).held) (f : Findings) :
    s.problems f (registries s.deployment.registry) = s.ownProblems f := by
  rw [Bootstrap.problems]
  cases hl : s.lease? with
  | none => rw [s.identifierProblems_of_none hl, List.append_nil]
  | some l =>
    rw [Bootstrap.identifierProblems_of_some hl, (Bootstrap.lease?_eq_some_iff.1 hl).2,
      if_neg (h l hl), List.append_nil]

/-- A start that ends its discovery with the same findings as alone in another world, and whose
identifier is free in both, comes to the same. -/
lemma finished_as_alone {v : World} {before rest rest' : List Step} {s : Bootstrap}
    {asked asked' : List Scan} {f : Findings}
    (hw : (w.run before).1.progress? b params = some (s, asked, .finished f))
    (hv : v.progress? b params = some (s, asked', .finished f))
    (hfree : ∀ l, s.lease? = some l →
      l.id ∉ ((w.run before).1.registries l.registry).held ∧
        l.id ∉ (v.registries l.registry).held)
    (hevents : w.eventsOf b = v.eventsOf b)
    (hrest : newsOf b s.deployment.containerId rest = newsOf b s.deployment.containerId rest') :
    ((w.run before).1.poll b params).2 = (v.poll b params).2 ∧
      (w.run (before ++ .poll b params :: rest)).1.eventsOf b =
        (v.run (.poll b params :: rest')).1.eventsOf b := by
  have hown := problems_of_free (fun l hl => (hfree l hl).1) f
  have hown' := problems_of_free (fun l hl => (hfree l hl).2) f
  by_cases hnil : s.ownProblems f = []
  · have halone := eventsOf_run_of_started (w := v) [] hv (hown'.trans hnil) rest'
    constructor
    · rw [poll_of_eq_nil hw (hown.trans hnil), poll_of_eq_nil hv (hown'.trans hnil)]
    · rw [eventsOf_run_of_started before hw (hown.trans hnil) rest, hevents, hrest]
      exact halone.symm
  · have halone := eventsOf_run_of_refused (w := v) [] hv (hown'.trans_ne hnil) rest'
    constructor
    · rw [poll_of_ne_nil hw (hown.trans_ne hnil), poll_of_ne_nil hv (hown'.trans_ne hnil), hown,
        hown']
    · rw [eventsOf_run_of_refused before hw (hown.trans_ne hnil) rest, hevents]
      exact halone.symm

/-- Builders that can be started side by side. Each can still be configured, and its host answers
every scan sooner or later; what they want to hold is free, and no two of them want the same. -/
structure SideBySide (w : World) (builders : List Nat) : Prop where
  configuring : ∀ b ∈ builders, ∃ d, w.stage b = .configuring d ∧
    ∀ loader scan, (w.host d.environment).reply loader scan ≠ .never
  free : ∀ b ∈ builders, ∀ l, (w.stage b).wanted? = some l →
    (w.registries l.registry).inUse l.id = false
  distinct : ∀ b ∈ builders, ∀ b' ∈ builders, ∀ l, (w.stage b).wanted? = some l →
    (w.stage b').wanted? = some l → b' = b

variable {builders : List Nat} {steps : List Step}

/-- What a builder wants to hold stays free while it takes turns with the others. -/
lemma SideBySide.not_mem_held_run (h : w.SideBySide builders) (hb : b ∈ builders)
    (hturns : ∀ s ∈ steps, ∃ b' ∈ builders, s.builder? = some b')
    (hspent : ¬ (w.run steps).1.IsSpent b) {l : Lease} (hl : (w.stage b).wanted? = some l) :
    l.id ∉ ((w.run steps).1.registries l.registry).held ∧
      l.id ∉ (w.registries l.registry).held := by
  have hheld : l.id ∉ (w.registries l.registry).held := by
    simpa [Registry.inUse] using h.free b hb l hl
  refine ⟨World.not_mem_held_run ?_ ?_ hheld hspent, hheld⟩
  · intro s hs
    obtain ⟨b', -, hb'⟩ := hturns s hs
    exact ⟨b', hb'⟩
  · intro s hs b' hb' hne hw
    obtain ⟨b₁, hb₁, hsb⟩ := hturns s hs
    obtain rfl : b₁ = b' := Option.some.inj (hsb.symm.trans hb')
    exact hne (h.distinct b hb b₁ hb₁ l hl hw)

end World

/-- Builders take turns, in any order. A start that comes to its end among them has the outcome that
it has alone in a world without delays, and whatever comes later, its extensions are told what they
are told there. -/
theorem outcome_of_turns {w : World} {builders : List Nat} {b : Nat} {params : Properties}
    {steps : List Step} {outcome : Except BootstrapError Model} (h : w.SideBySide builders)
    (hb : b ∈ builders) (hturns : ∀ s ∈ steps, ∃ b' ∈ builders, s.builder? = some b')
    (hparams : ∀ params', .poll b params' ∈ steps → params' = params)
    (hr : ((w.run steps).1.poll b params).2 = .ready outcome)
    (hfirst : ∀ e, outcome ≠ .error (.illegalState e)) :
    (w.promptly.poll b params).2 = .ready outcome ∧
    ∀ rest, (w.run (steps ++ .poll b params :: rest)).1.eventsOf b =
      (w.promptly.run
        (.poll b params :: rest.filter fun s => s.builder? = some b)).1.eventsOf b := by
  suffices hsame : ∀ rest,
      ((w.run steps).1.poll b params).2 = (w.promptly.poll b params).2 ∧
        (w.run (steps ++ .poll b params :: rest)).1.eventsOf b =
          (w.promptly.run
            (.poll b params :: rest.filter fun s => s.builder? = some b)).1.eventsOf b by
    exact ⟨(hsame []).1.symm.trans hr, fun rest => (hsame rest).2⟩
  intro rest
  obtain ⟨d, hd, hanswers⟩ := h.configuring b hb
  have hspent : ¬ (w.run steps).1.IsSpent b := by
    intro hspent
    obtain ⟨e, he⟩ := hspent.exists_poll_eq params
    rw [he] at hr
    exact hfirst e (PollResult.ready.inj hr).symm
  have hturns' : ∀ s ∈ steps, ∃ b', s.builder? = some b' := by
    intro s hs
    obtain ⟨b', -, hb'⟩ := hturns s hs
    exact ⟨b', hb'⟩
  obtain ⟨w₁, hd₁, henv, hclosed, hw₁⟩ := World.inProgress_of_turns hd hturns' hparams hspent
  have hhost : w₁.host d.environment = w.host d.environment := World.host_congr henv _
  cases hm : (w.host d.environment).managed with
  | true =>
    -- nobody waits for a managed host, so this is the first poll
    obtain rfl := hw₁.eq_of_managed hd₁ (by rw [hhost, hm])
    have hmv : (w.promptly.host d.environment).managed = true := by
      rw [World.host_promptly]
      exact hm
    exact World.managed_as_alone (v := w.promptly) hd₁ (by rw [hhost, hm]) hd hmv rfl rest _
  | false =>
    obtain ⟨asked, hp⟩ := hw₁.progress?_of_ready hd₁ (by rw [hhost, hm]) hr
    obtain ⟨asked', hp'⟩ := World.progress?_promptly hd hm hanswers params
    rw [World.startOf_congr henv hclosed, hhost] at hp
    refine World.finished_as_alone hp hp' (fun l hl => ?_) rfl (newsOf_filter b _ rest).symm
    exact h.not_mem_held_run hb hturns hspent (by rw [hd]; exact hl)

/-- Three builders. The first two have one identifier for different registries. The host of the
first answers after one poll in vain, and that of the others after two. -/
def threeBuilders : List Step :=
  [.addEnvironment
      (.hosted { reply := fun _ _ => .after 1 (.ok [⟨⟨"app::Order", .system⟩, {}⟩]) }),
    .addEnvironment (.hosted { reply := fun _ _ => .after 2 (.ok []) }), .addRegistry,
    .newBuilder, .newBuilder, .newBuilder, .newExtension "log",
    .call 0 (.setEnvironment 0), .call 0 (.setContainerId "orders"),
    .call 0 (.addExtensions [⟨1, "log"⟩]),
    .call 1 (.setEnvironment 1), .call 1 (.setContainerId "orders"), .call 1 (.setRegistry 1),
    .call 2 (.setEnvironment 1), .call 2 (.setContainerId "stock")]

/-- Turns of the three builders, up to the last poll of the first. -/
def threeBuildersTurns : List Step :=
  [.poll 1 ∅, .poll 0 ∅, .poll 2 ∅, .poll 1 ∅, .abandon 2, .poll 1 ∅]

/-- The world in which the builders have been configured. -/
def threeBuildersWorld : World := (({} : World).run threeBuilders).1

lemma sideBySide_threeBuilders : threeBuildersWorld.SideBySide [0, 1, 2] := by
  have h₀ : (threeBuildersWorld.stage 0).wanted? = some ⟨0, "orders"⟩ := rfl
  have h₁ : (threeBuildersWorld.stage 1).wanted? = some ⟨1, "orders"⟩ := rfl
  have h₂ : (threeBuildersWorld.stage 2).wanted? = some ⟨0, "stock"⟩ := rfl
  constructor
  · simp only [List.forall_mem_cons, List.not_mem_nil, false_implies, implies_true, and_true]
    exact ⟨⟨_, rfl, nofun⟩, ⟨_, rfl, nofun⟩, ⟨_, rfl, nofun⟩⟩
  · intro b _ l _
    rfl
  · simp [h₀, h₁, h₂, eq_comm]

theorem outcome_of_turns_threeBuilders :
    threeBuildersWorld.SideBySide [0, 1, 2] ∧
      (∀ s ∈ threeBuildersTurns, ∃ b ∈ [0, 1, 2], s.builder? = some b) ∧
      (∀ params, .poll 0 params ∈ threeBuildersTurns → params = ∅) ∧
      ∃ model,
        ((threeBuildersWorld.run threeBuildersTurns).1.poll 0 ∅).2 = .ready (.ok model) ∧
        (threeBuildersWorld.promptly.poll 0 ∅).2 = .ready (.ok model) ∧
        (threeBuildersWorld.run
            (threeBuildersTurns ++ [.poll 0 ∅, .shutdown 1, .shutdown 0])).1.eventsOf 0 =
          (threeBuildersWorld.promptly.run [.poll 0 ∅, .shutdown 0]).1.eventsOf 0 := by
  have hturns : ∀ s ∈ threeBuildersTurns, ∃ b ∈ [0, 1, 2], s.builder? = some b := by
    simp [threeBuildersTurns, Step.builder?]
  have hparams : ∀ params, .poll 0 params ∈ threeBuildersTurns → params = ∅ := by
    simp [threeBuildersTurns]
  obtain ⟨model, hr⟩ : ∃ model,
      ((threeBuildersWorld.run threeBuildersTurns).1.poll 0 ∅).2 = .ready (.ok model) := ⟨_, rfl⟩
  obtain ⟨hok, hevents⟩ :=
    outcome_of_turns sideBySide_threeBuilders (by simp) hturns hparams hr nofun
  have hown : [Step.shutdown 1, .shutdown 0].filter (fun s => s.builder? = some 0) =
      [.shutdown 0] := rfl
  have hrest := hevents [.shutdown 1, .shutdown 0]
  rw [hown] at hrest
  exact ⟨sideBySide_threeBuilders, hturns, hparams, model, hr, hok, hrest⟩

end BeanContainer
