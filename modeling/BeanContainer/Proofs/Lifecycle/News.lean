import BeanContainer.Proofs.Lifecycle.Polling
/-!
# Who is told what

A `Round` is one event on its way to the extensions of a builder, one after the other.
`World.rounds` says which rounds a step makes, and nothing else ever reaches an extension
(`World.observationsOf_run`); `RoundRule` lists what a round can be. A builder that has not been
used up has told nothing, a container that is up tells what `newsOf` says, and where there is
neither nothing is told any more.
-/

namespace BeanContainer

/-- An event on its way to extensions, with the registries as they are meanwhile. -/
structure Round where
  audience : List Extension
  event : Event
  registries : Nat → Registry

namespace Round

/-- What is told in a round, in order. -/
def told (r : Round) : List (Extension × Event) := r.audience.map (·, r.event)

/-- What a round leaves in the history of a builder. -/
def notices (b : Nat) (r : Round) : List Notice :=
  r.audience.map fun x => .observed b x r.event r.registries

end Round

/-- Events that are delivered to extensions: each to all of them before the next. -/
def deliver (extensions : List Extension) (events : List Event) : List (Extension × Event) :=
  events.flatMap fun e => extensions.map (·, e)

@[simp] lemma deliver_nil (extensions : List Extension) : deliver extensions [] = [] := rfl

lemma deliver_append (extensions : List Extension) (es es' : List Event) :
    deliver extensions (es ++ es') = deliver extensions es ++ deliver extensions es' :=
  List.flatMap_append

/-- The event that a step fires through the container of a builder, if it does. -/
def Step.fired? (b : Nat) : Step → Option Event
  | .fire b' name payload => if b' = b then some (.custom name payload) else none
  | _ => none

/-- Whether a step shuts the container of a builder down. -/
def Step.isShutdownOf (b : Nat) : Step → Bool
  | .shutdown b' => b' = b
  | _ => false

lemma Step.isShutdownOf_iff {b : Nat} {s : Step} : s.isShutdownOf b = true ↔ s = .shutdown b := by
  cases s <;> simp [isShutdownOf]

/-- Whether a step may leave something in the history. -/
def Step.isRecorded : Step → Bool
  | .poll .. | .fire .. | .shutdown .. => true
  | _ => false

/-- What a container tells of the steps that come while it is up: the events that are fired, in
order, and at last that it goes down. -/
def newsOf (b : Nat) (containerId : Option String) : List Step → List Event
  | [] => []
  | s :: ss =>
    if s.isShutdownOf b then [.beforeShutdown containerId]
    else (s.fired? b).toList ++ newsOf b containerId ss

/-- Whether an entry of the history is what an extension of a builder has observed. -/
def Notice.isObservation (b : Nat) : Notice → Bool
  | .observed b' .. => b' = b
  | .asked .. => false

/-- What an entry of the history tells of an event. -/
def Notice.telling? : Notice → Option (Extension × Event)
  | .observed _ x e _ => some (x, e)
  | .asked .. => none

namespace World

/-- What the extensions of a builder have observed, in order. -/
def observationsOf (w : World) (b : Nat) : List Notice :=
  w.history.filter (Notice.isObservation b)

/-- The rounds that a step makes for the extensions of a builder. -/
def rounds (w : World) (b : Nat) : Step → List Round
  | .poll b' params =>
    if b' = b then
      match w.concluding? b params with
      | some (s, f) =>
        ⟨s.deployment.extensions, .afterBeanDiscovery (s.sources b f), w.registries⟩ ::
          match w.poll b params with
          | (v, .ready (.ok model)) =>
            [⟨s.deployment.extensions, .afterDeploymentValidation model, v.registries⟩]
          | _ => []
      | none => []
    else []
  | .fire b' name payload =>
    if b' = b then (w.container? b).toList.map fun c =>
      ⟨c.model.extensions, .custom name payload, w.registries⟩
    else []
  | .shutdown b' =>
    if b' = b then (w.container? b).toList.map fun c =>
      ⟨c.model.extensions, .beforeShutdown c.model.containerId, w.registries⟩
    else []
  | _ => []

/-- All rounds that a run makes for the extensions of a builder. -/
def story (w : World) (b : Nat) : List Step → List Round
  | [] => []
  | s :: ss => w.rounds b s ++ (w.step s).1.story b ss

/-! ### What a round can be -/

/-- Everything that a step can tell the extensions of a builder. -/
inductive RoundRule (w : World) (b : Nat) : Step → Round → Prop
  | discovered {params : Properties} {s : Bootstrap} {asked : List Scan} {f : Findings}
      (h : w.progress? b params = some (s, asked, .finished f)) :
      RoundRule w b (.poll b params)
        ⟨s.deployment.extensions, .afterBeanDiscovery (s.sources b f), w.registries⟩
  | validated {params : Properties} {s : Bootstrap} {asked : List Scan} {f : Findings}
      (h : w.progress? b params = some (s, asked, .finished f))
      (hp : s.problems f (w.registries s.deployment.registry) = []) :
      RoundRule w b (.poll b params)
        ⟨s.deployment.extensions, .afterDeploymentValidation (s.model b f),
          (w.poll b params).1.registries⟩
  | fired {c : Container} {name : String} {payload : Json} (hs : w.stage b = .running c) :
      RoundRule w b (.fire b name payload)
        ⟨c.model.extensions, .custom name payload, w.registries⟩
  | ending {c : Container} (hs : w.stage b = .running c) :
      RoundRule w b (.shutdown b)
        ⟨c.model.extensions, .beforeShutdown c.model.containerId, w.registries⟩

variable {w : World} {b : Nat}

/-- The poll that ends a start with problems tells the sources. -/
lemma rounds_poll_of_ne_nil {params : Properties} {s : Bootstrap} {asked : List Scan}
    {f : Findings} (h : w.progress? b params = some (s, asked, .finished f))
    (hp : s.problems f (w.registries s.deployment.registry) ≠ []) :
    w.rounds b (.poll b params) =
      [⟨s.deployment.extensions, .afterBeanDiscovery (s.sources b f), w.registries⟩] := by
  simp only [rounds, if_true, concluding?_eq_some_iff.2 ⟨asked, h⟩, poll_of_ne_nil h hp]

/-- The poll that ends a start without problems tells the sources, then the model. -/
lemma rounds_poll_of_eq_nil {params : Properties} {s : Bootstrap} {asked : List Scan}
    {f : Findings} (h : w.progress? b params = some (s, asked, .finished f))
    (hp : s.problems f (w.registries s.deployment.registry) = []) :
    w.rounds b (.poll b params) =
      [⟨s.deployment.extensions, .afterBeanDiscovery (s.sources b f), w.registries⟩,
        ⟨s.deployment.extensions, .afterDeploymentValidation (s.model b f),
          (w.poll b params).1.registries⟩] := by
  simp only [rounds, if_true, concluding?_eq_some_iff.2 ⟨asked, h⟩, poll_of_eq_nil h hp]

/-- A poll that does not end a discovery tells nothing. -/
lemma rounds_poll_of_concluding?_eq_none {params : Properties}
    (h : w.concluding? b params = none) : w.rounds b (.poll b params) = [] := by
  simp only [rounds, if_true, h]

theorem RoundRule.of_mem_rounds {s : Step} {r : Round} (h : r ∈ w.rounds b s) :
    RoundRule w b s r := by
  cases s with
  | poll b' params =>
    by_cases hb : b' = b
    · subst hb
      cases hc : w.concluding? b' params with
      | none => simp [rounds_poll_of_concluding?_eq_none hc] at h
      | some e =>
        obtain ⟨asked, hp⟩ := concluding?_eq_some_iff.1 hc
        by_cases hnil : e.1.problems e.2 (w.registries e.1.deployment.registry) = []
        · rw [rounds_poll_of_eq_nil hp hnil, List.mem_cons, List.mem_singleton] at h
          rcases h with rfl | rfl
          · exact .discovered hp
          · exact .validated hp hnil
        · rw [rounds_poll_of_ne_nil hp hnil, List.mem_singleton] at h
          subst h
          exact .discovered hp
    · simp [rounds, hb] at h
  | fire b' name payload =>
    by_cases hb : b' = b
    · subst hb
      simp only [rounds, if_true, List.mem_map, Option.mem_toList] at h
      obtain ⟨c, hc, rfl⟩ := h
      exact .fired (container?_eq_some_iff.1 hc)
    · simp [rounds, hb] at h
  | shutdown b' =>
    by_cases hb : b' = b
    · subst hb
      simp only [rounds, if_true, List.mem_map, Option.mem_toList] at h
      obtain ⟨c, hc, rfl⟩ := h
      exact .ending (container?_eq_some_iff.1 hc)
    · simp [rounds, hb] at h
  | _ => cases h

/-! ### The history is made of rounds -/

@[simp] lemma observationsOf_setStage (w : World) (b b' : Nat) (s : Stage) :
    (w.setStage b' s).observationsOf b = w.observationsOf b := rfl

@[simp] lemma observationsOf_hold (w : World) (b : Nat) (l : Lease) :
    (w.hold l).observationsOf b = w.observationsOf b := rfl

@[simp] lemma observationsOf_release (w : World) (b : Nat) (l : Lease) :
    (w.release l).observationsOf b = w.observationsOf b := rfl

@[simp] lemma observationsOf_recordScans (w : World) (b b' env : Nat) (l : Loader)
    (ss : List Scan) : (w.recordScans b' env l ss).observationsOf b = w.observationsOf b := by
  simp [observationsOf, recordScans, Notice.isObservation]

lemma observationsOf_notify_self (w : World) (b : Nat) (xs : List Extension) (e : Event) :
    (w.notify b xs e).observationsOf b =
      w.observationsOf b ++ Round.notices b ⟨xs, e, w.registries⟩ := by
  simp [observationsOf, notify, Round.notices, Notice.isObservation]

lemma observationsOf_notify_of_ne {b' : Nat} (h : b' ≠ b) (w : World) (xs : List Extension)
    (e : Event) : (w.notify b' xs e).observationsOf b = w.observationsOf b := by
  simp [observationsOf, notify, Notice.isObservation, h]

lemma observationsOf_launch_self (w : World) (b : Nat) (s : Bootstrap) (f : Findings) :
    (w.launch b s f).observationsOf b =
      w.observationsOf b ++
        Round.notices b
          ⟨s.deployment.extensions, .afterBeanDiscovery (s.sources b f), w.registries⟩ ++
        Round.notices b ⟨s.deployment.extensions, .afterDeploymentValidation (s.model b f),
          (w.launch b s f).registries⟩ := by
  rw [launch, observationsOf_notify_self, observationsOf_setStage]
  cases s.lease? with
  | none => rw [Option.elim_none, observationsOf_notify_self]; rfl
  | some l => rw [Option.elim_some, observationsOf_hold, observationsOf_notify_self]; rfl

lemma observationsOf_launch_of_ne {b' : Nat} (h : b' ≠ b) (w : World) (s : Bootstrap)
    (f : Findings) : (w.launch b' s f).observationsOf b = w.observationsOf b := by
  rw [launch, observationsOf_notify_of_ne h, observationsOf_setStage]
  cases s.lease? with
  | none => exact observationsOf_notify_of_ne h _ _ _
  | some l => exact observationsOf_notify_of_ne h _ _ _

lemma concluding?_eq_none {params : Properties} (h : w.progress? b params = none) :
    w.concluding? b params = none := by
  rw [concluding?, h]

lemma observationsOf_poll_self (w : World) (b : Nat) (params : Properties) :
    (w.poll b params).1.observationsOf b =
      w.observationsOf b ++ (w.rounds b (.poll b params)).flatMap (Round.notices b) := by
  cases hc : w.concluding? b params with
  | some e =>
    obtain ⟨asked, hp⟩ := concluding?_eq_some_iff.1 hc
    by_cases hnil : e.1.problems e.2 (w.registries e.1.deployment.registry) = []
    · rw [rounds_poll_of_eq_nil hp hnil, poll_of_eq_nil hp hnil, observationsOf_launch_self,
        observationsOf_recordScans]
      simp
    · rw [rounds_poll_of_ne_nil hp hnil, poll_of_ne_nil hp hnil, observationsOf_setStage,
        observationsOf_notify_self, observationsOf_recordScans]
      simp
  | none =>
    -- whatever else a poll comes to, it leaves no entry but those of the scans it asks
    rw [rounds_poll_of_concluding?_eq_none hc, List.flatMap_nil, List.append_nil]
    generalize hr : w.poll b params = r
    cases PollRule.of_poll hr with
    | refused hp => cases (concluding?_eq_some_iff.2 ⟨_, hp⟩).symm.trans hc
    | launched hp => cases (concluding?_eq_some_iff.2 ⟨_, hp⟩).symm.trans hc
    | _ => simp

lemma observationsOf_poll_of_ne {b' : Nat} (h : b' ≠ b) (w : World) (params : Properties) :
    (w.poll b' params).1.observationsOf b = w.observationsOf b := by
  generalize hr : w.poll b' params = r
  cases PollRule.of_poll hr with
  | launched => rw [observationsOf_launch_of_ne h, observationsOf_recordScans]
  | refused =>
    rw [observationsOf_setStage, observationsOf_notify_of_ne h, observationsOf_recordScans]
  | _ => simp

lemma observationsOf_shutdown_self (w : World) (b : Nat) :
    (w.shutdown b).observationsOf b =
      w.observationsOf b ++ (w.rounds b (.shutdown b)).flatMap (Round.notices b) := by
  cases hc : w.container? b with
  | none => simp [shutdown_of_none hc, rounds, hc]
  | some c =>
    rw [shutdown_of_some hc]
    cases c.lease with
    | none => simp [observationsOf_notify_self, rounds, hc]
    | some l => simp [observationsOf_notify_self, rounds, hc]

lemma observationsOf_shutdown_of_ne {b' : Nat} (h : b' ≠ b) (w : World) :
    (w.shutdown b').observationsOf b = w.observationsOf b := by
  cases hc : w.container? b' with
  | none => rw [shutdown_of_none hc]
  | some c =>
    rw [shutdown_of_some hc]
    cases c.lease with
    | none => simp [observationsOf_notify_of_ne h]
    | some l => simp [observationsOf_notify_of_ne h]

/-- Only polls, events of the caller's own and shutdowns leave something in the history. -/
lemma history_step {s : Step} (hs : s.isRecorded = false) :
    (w.step s).1.history = w.history := by
  cases s with
  | poll b' params => cases hs
  | fire b' name payload => cases hs
  | shutdown b' => cases hs
  | abandon b' =>
    show (w.abandon b').history = w.history
    rw [abandon]
    split <;> rfl
  | reserve r id =>
    show (w.reserve r id).1.history = w.history
    rw [reserve]
    split <;> rfl
  | dropLease n =>
    show (w.dropLease n).history = w.history
    rw [dropLease]
    split <;> rfl
  | produce bean =>
    show (w.produce bean).1.history = w.history
    rw [produce]
    split <;> rfl
  | _ => rfl

/-- A step adds its rounds to what has been observed, and nothing else. -/
theorem observationsOf_step (w : World) (b : Nat) (s : Step) :
    (w.step s).1.observationsOf b =
      w.observationsOf b ++ (w.rounds b s).flatMap (Round.notices b) := by
  cases s with
  | poll b' params =>
    change (w.poll b' params).1.observationsOf b = _
    by_cases hb : b' = b
    · subst hb
      exact observationsOf_poll_self w b' params
    · simpa [rounds, hb] using observationsOf_poll_of_ne hb w params
  | fire b' name payload =>
    change (w.fire b' name payload).observationsOf b = _
    rw [fire]
    by_cases hb : b' = b
    · subst hb
      cases hc : w.container? b' with
      | none => simp [rounds, hc]
      | some c => simp [rounds, hc, observationsOf_notify_self]
    · cases hc : w.container? b' with
      | none => simp [rounds, hb]
      | some c => simp [rounds, hb, observationsOf_notify_of_ne hb]
  | shutdown b' =>
    change (w.shutdown b').observationsOf b = _
    by_cases hb : b' = b
    · subst hb
      exact observationsOf_shutdown_self w b'
    · simpa [rounds, hb] using observationsOf_shutdown_of_ne hb w
  | _ =>
    rw [observationsOf, history_step rfl]
    exact (List.append_nil _).symm

/-- A run adds its rounds to what has been observed, and nothing else. -/
theorem observationsOf_run (w : World) (b : Nat) (steps : List Step) :
    (w.run steps).1.observationsOf b =
      w.observationsOf b ++ (w.story b steps).flatMap (Round.notices b) := by
  induction steps generalizing w with
  | nil => simp [story]
  | cons s ss ih =>
    rw [run_cons, ih, observationsOf_step, story, List.flatMap_append, List.append_assoc]

lemma eventsOf_eq_filterMap_observationsOf (w : World) (b : Nat) :
    w.eventsOf b = (w.observationsOf b).filterMap Notice.telling? := by
  rw [eventsOf, observationsOf, List.filterMap_filter]
  congr 1
  funext n
  cases n <;> simp [Notice.isObservation, Notice.telling?]

/-- Extensions are told what the rounds of a run say, and nothing else. -/
theorem eventsOf_run (w : World) (b : Nat) (steps : List Step) :
    (w.run steps).1.eventsOf b = w.eventsOf b ++ (w.story b steps).flatMap Round.told := by
  have htold : ∀ r : Round, (r.notices b).filterMap Notice.telling? = r.told := by
    intro r
    rw [Round.notices, Round.told, List.filterMap_map]
    exact congrFun (List.filterMap_eq_map) r.audience
  simp only [eventsOf_eq_filterMap_observationsOf, observationsOf_run, List.filterMap_append,
    List.filterMap_flatMap, htold]

lemma eventsOf_step (w : World) (b : Nat) (s : Step) :
    (w.step s).1.eventsOf b = w.eventsOf b ++ (w.rounds b s).flatMap Round.told := by
  simpa [story] using w.eventsOf_run b [s]

/-- The history has no entry of a builder but those that its rounds leave. -/
lemma exists_of_observed_mem_history {steps : List Step} {x : Extension} {e : Event}
    {registries : Nat → Registry}
    (h : .observed b x e registries ∈ (w.run steps).1.history)
    (hw : w.observationsOf b = []) :
    ∃ r ∈ w.story b steps, r.event = e ∧ r.registries = registries := by
  have hm : .observed b x e registries ∈ (w.run steps).1.observationsOf b :=
    List.mem_filter.2 ⟨h, by simp [Notice.isObservation]⟩
  rw [observationsOf_run, hw, List.nil_append] at hm
  obtain ⟨r, hr, hn⟩ := List.mem_flatMap.1 hm
  obtain ⟨x', -, hx⟩ := List.mem_map.1 hn
  simp only [Notice.observed.injEq] at hx
  exact ⟨r, hr, hx.2.2.1, hx.2.2.2⟩

end World

end BeanContainer
