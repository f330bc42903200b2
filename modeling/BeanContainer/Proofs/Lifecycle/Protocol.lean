import BeanContainer.Proofs.Lifecycle.Custody
import BeanContainer.Proofs.Lifecycle.Story
/-!
# The protocol of events

What the extensions of a builder are told in a run depends on the verdict on its start: nothing
without one, the sources if it is refused, and otherwise the sources, the model, what is fired
through the container, and that it goes down. The identifier of the container is in use whenever
they are told of the container itself.
-/

namespace BeanContainer

/-- The identifier of the container that an event tells of. -/
def Event.containerId? : Event → Option String
  | .afterDeploymentValidation model => model.containerId
  | .beforeShutdown containerId => containerId
  | .afterBeanDiscovery _ | .custom .. => none

/-- The registry that calls give to a builder. -/
def Call.registry (calls : List Call) : Nat :=
  (latest? registryNumber? calls).getD World.globalRegistry

namespace World

variable {b : Nat} {steps : List Step}

/-- A container that is up holds its identifier. -/
lemma mem_held_of_running {c : Container} {id : String}
    (h : (({} : World).run steps).1.stage b = .running c) (hid : c.model.containerId = some id) :
    id ∈ ((({} : World).run steps).1.registries
      (Call.registry (acceptedCalls b steps (({} : World).run steps).2))).held := by
  have hmade := isMadeOf_run steps b
  rw [h] at hmade
  obtain ⟨s, b', f, hacc, rfl⟩ := hmade
  have hk := Custody.agrees_ofRun steps
  have hl : s.lease? = some ⟨_, id⟩ := Bootstrap.lease?_eq_some_iff.2 ⟨hid, hacc.registry⟩
  refine (hk.covers.held_iff _ _).2 ⟨.container b, ((hk.stage b).holder_iff _).2 ?_⟩
  rw [h]
  exact hl

/-- While extensions are told of a container, its identifier is in use. -/
theorem inUse_of_mem_story {r : Round} (hr : r ∈ ({} : World).story b steps) {id : String}
    (hid : r.event.containerId? = some id) :
    (r.registries (Call.registry (acceptedCalls b steps (({} : World).run steps).2))).inUse id =
      true := by
  obtain ⟨before, s, rest, rfl, hrule⟩ := exists_of_mem_story hr
  -- no call is accepted after a round, so the registry is the one given to the builder before
  have hcall : acceptedCall? b s ((({} : World).run before).1.step s).2 = none := by
    cases hrule <;> rfl
  rw [acceptedCalls_of_isSpent hrule.isSpent hcall, Registry.inUse_iff]
  cases hrule with
  | discovered => cases hid
  | fired => cases hid
  | ending hs => exact mem_held_of_running hs hid
  | @validated params s asked f hp hnil =>
    have hacc := accumulates_of_progress? (isMadeOf_run before b) hp
    rw [poll_of_eq_nil hp hnil, mem_held_launch]
    exact .inr (Bootstrap.lease?_eq_some_iff.2 ⟨hid, hacc.registry⟩)

end World

/-- What the extensions of a builder are told in a run: nothing if no poll of it comes to a verdict;
the sources if the verdict is that the deployment has problems; and the sources, the model with them
and what the container tells if there is one. Every event is delivered to each extension once, in
the order in which they were added first, before the next event; and when extensions are told of the
container, its identifier is in use. -/
theorem protocol_of_run (steps : List Step) (b : Nat) :
    let w := (({} : World).run steps).1
    let calls := acceptedCalls b steps (({} : World).run steps).2
    let extensions := Keyed.firsts Extension.serial (calls.flatMap Call.extensions)
    (extensions.map Extension.serial).Nodup ∧
    ((∀ before params rest, steps = before ++ .poll b params :: rest →
      ¬ ((({} : World).run before).1.poll b params).2.IsVerdict) → w.eventsOf b = []) ∧
    (∀ before params rest problems, steps = before ++ .poll b params :: rest →
      ((({} : World).run before).1.poll b params).2 = .ready (.error (.definition problems)) →
      ∃ sources, w.eventsOf b = deliver extensions [.afterBeanDiscovery sources]) ∧
    (∀ before params rest model, steps = before ++ .poll b params :: rest →
      ((({} : World).run before).1.poll b params).2 = .ready (.ok model) →
      w.eventsOf b = deliver extensions
        (.afterBeanDiscovery model.sources :: .afterDeploymentValidation model ::
          newsOf b model.containerId rest)) ∧
    (∀ x event registries id, .observed b x event registries ∈ w.history →
      event.containerId? = some id → (registries (Call.registry calls)).inUse id = true) := by
  intro w calls extensions
  have hext : ∀ {before params rest s asked f}, steps = before ++ .poll b params :: rest →
      (({} : World).run before).1.progress? b params = some (s, asked, .finished f) →
      s.deployment.extensions = extensions := by
    intro before params rest s asked f hsteps hp
    subst hsteps
    have hacc := World.accumulates_of_progress? (World.isMadeOf_run before b) hp
    have hcalls : calls = acceptedCalls b before (({} : World).run before).2 :=
      World.acceptedCalls_of_isSpent (World.isSpent_poll_of_finished hp) rfl
    rw [hacc.extensions, ← hcalls]
  refine ⟨?_, ?_, ?_, ?_, ?_⟩
  · exact Keyed.nodup_map_firsts _
  · intro hv
    rw [World.eventsOf_run, World.story_of_no_verdict (by rfl) hv]
    rfl
  · intro before params rest problems hsteps hr
    obtain ⟨s, asked, f, hp, hne⟩ := World.exists_progress?_of_refused hr
    refine ⟨s.sources b f, ?_⟩
    rw [← hext hsteps hp]
    subst hsteps
    exact World.eventsOf_run_of_refused before hp hne rest
  · intro before params rest model hsteps hr
    obtain ⟨s, asked, f, hp, hnil, rfl⟩ := World.exists_progress?_of_started hr
    rw [← hext hsteps hp]
    subst hsteps
    exact World.eventsOf_run_of_started before hp hnil rest
  · intro x event registries id hm hid
    obtain ⟨r, hr, rfl, rfl⟩ := World.exists_of_observed_mem_history hm rfl
    exact World.inUse_of_mem_story hr hid

/-- The start of a builder with two extensions, the first of which has been added twice. Its host
answers after one poll in vain. -/
def observedStart : List Step :=
  [.addEnvironment (.hosted { reply := fun _ _ => .after 1 (.ok []) }), .newBuilder,
    .newExtension "log", .newExtension "audit", .call 0 (.setEnvironment 0),
    .call 0 (.setContainerId "orders"),
    .call 0 (.addExtensions [⟨1, "log"⟩, ⟨2, "audit"⟩, ⟨1, "log"⟩]), .poll 0 ∅]

/-- What is done to the container afterwards. -/
def observedUse : List Step :=
  [.fire 0 "ready" .null, .poll 0 ∅, .shutdown 0, .fire 0 "late" .null, .shutdown 0]

theorem protocol_of_run_observedStart :
    ∃ model, ((({} : World).run observedStart).1.poll 0 ∅).2 = .ready (.ok model) ∧
      (({} : World).run (observedStart ++ .poll 0 ∅ :: observedUse)).1.eventsOf 0 =
        [(⟨1, "log"⟩, .afterBeanDiscovery model.sources),
          (⟨2, "audit"⟩, .afterBeanDiscovery model.sources),
          (⟨1, "log"⟩, .afterDeploymentValidation model),
          (⟨2, "audit"⟩, .afterDeploymentValidation model),
          (⟨1, "log"⟩, .custom "ready" .null), (⟨2, "audit"⟩, .custom "ready" .null),
          (⟨1, "log"⟩, .beforeShutdown (some "orders")),
          (⟨2, "audit"⟩, .beforeShutdown (some "orders"))] := by
  obtain ⟨model, hr, hid⟩ : ∃ model : Model,
      ((({} : World).run observedStart).1.poll 0 ∅).2 = .ready (.ok model) ∧
        model.containerId = some "orders" := ⟨_, rfl, rfl⟩
  obtain ⟨-, -, -, hstarted, -⟩ := protocol_of_run (observedStart ++ .poll 0 ∅ :: observedUse) 0
  refine ⟨model, hr, ?_⟩
  rw [hstarted observedStart ∅ observedUse model rfl hr, hid]
  rfl

end BeanContainer
