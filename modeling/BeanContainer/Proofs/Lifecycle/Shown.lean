import BeanContainer.Proofs.Lifecycle.SingleUse
/-!
# What a builder shows of itself

A builder shows its identifier and whether discovery is enabled. Up to the first poll of its start,
this is what the calls on it have set last. From then on it shows no identifier and discovery as
enabled, whatever has been set and however the start ends: it has handed its deployment over. What
was set is found in the container only, if there is one.
-/

namespace BeanContainer

namespace World

variable {w : World} {b : Nat}

lemma configuredBy_newBuilder (w : World) : w.newBuilder.1.ConfiguredBy w.stages.length [] := by
  constructor
  · rw [stage_newBuilder_self]
    exact Deployment.accumulates_nil _
  · intro _
    rfl

/-- As long as a builder can be configured, it shows what calls have set last. -/
lemma ConfiguredBy.shown {calls : List Call} {d : Deployment} (h : w.ConfiguredBy b calls)
    (hd : w.stage b = .configuring d) :
    (w.stage b).containerId = (Call.latest? Call.containerId? calls).join ∧
      (w.stage b).discovery = (Call.latest? Call.discovery? calls).getD true := by
  have hmade := h.isMadeOf
  rw [hd] at hmade ⊢
  exact ⟨hmade.containerId, hmade.discovery⟩

/-- A builder whose start has begun shows nothing of what has been set. -/
lemma HasBegun.shown (h : w.HasBegun b) :
    (w.stage b).containerId = none ∧ (w.stage b).discovery = true := by
  cases hs : w.stage b with
  | configuring d => exact absurd hs (h.begun d)
  | _ => exact ⟨rfl, rfl⟩

/-- A container has what calls on its builder have set last. -/
lemma ConfiguredBy.container {calls : List Call} {c : Container} (h : w.ConfiguredBy b calls)
    (hc : w.container? b = some c) :
    c.model.containerId = (Call.latest? Call.containerId? calls).join ∧
      c.model.discovery = (Call.latest? Call.discovery? calls).getD true := by
  have hmade := h.isMadeOf
  rw [container?_eq_some_iff.1 hc] at hmade
  obtain ⟨s, b', f, hacc, rfl⟩ := hmade
  exact ⟨hacc.containerId, hacc.discovery⟩

end World

/-- What a builder shows in a run after it was made, whatever is done to it and to others. Before it
is polled, it shows the identifier and the discovery that accepted calls have set last. Once it has
been polled, it shows no identifier and discovery as enabled, be the start waiting, abandoned, over
or refused. The container, if there is one, has what the calls have set. -/
theorem shown_of_run (w : World) (steps : List Step) :
    let b := w.stages.length
    let v := (w.newBuilder.1.run steps).1
    let calls := acceptedCalls b steps (w.newBuilder.1.run steps).2
    let containerId := (Call.latest? Call.containerId? calls).join
    let discovery := (Call.latest? Call.discovery? calls).getD true
    ((∀ params, .poll b params ∉ steps) →
      (v.stage b).containerId = containerId ∧ (v.stage b).discovery = discovery) ∧
    ((∃ params, .poll b params ∈ steps) →
      (v.stage b).containerId = none ∧ (v.stage b).discovery = true) ∧
    ∀ c, v.container? b = some c →
      c.model.containerId = containerId ∧ c.model.discovery = discovery := by
  intro b v calls containerId discovery
  have hd := w.stage_newBuilder_self
  have hmade : v.ConfiguredBy b calls := w.configuredBy_newBuilder.run steps
  refine ⟨?_, ?_, ?_⟩
  · intro hp
    obtain ⟨d, hd'⟩ := World.exists_configuring_run hd hp
    exact hmade.shown hd'
  · rintro ⟨params, hp⟩
    exact (World.hasBegun_run_of_polled (World.lt_length_of_configuring hd) hp).shown
  · intro c hc
    exact hmade.container hc

/-- A builder is given an identifier, and discovery is disabled. -/
def namedBuilder : List Step := [.call 0 (.setContainerId "orders"), .call 0 (.setDiscovery false)]

/-- And it is started. -/
def namedStart : List Step := namedBuilder ++ [.poll 0 ∅]

theorem shown_of_run_namedStart :
    let v := (({} : World).newBuilder.1.run namedBuilder).1
    let v' := (({} : World).newBuilder.1.run namedStart).1
    (∀ params, .poll 0 params ∉ namedBuilder) ∧
    (v.stage 0).containerId = some "orders" ∧ (v.stage 0).discovery = false ∧
    .poll 0 ∅ ∈ namedStart ∧
    (v'.stage 0).containerId = none ∧ (v'.stage 0).discovery = true ∧
    ∃ c, v'.container? 0 = some c ∧
      c.model.containerId = some "orders" ∧ c.model.discovery = false := by
  intro v v'
  have hnone : ∀ params, .poll 0 params ∉ namedBuilder := by
    intro params h
    simp [namedBuilder] at h
  have hpolled : .poll 0 ∅ ∈ namedStart := List.mem_append_right _ (List.mem_singleton_self _)
  obtain ⟨hbefore, -, -⟩ := shown_of_run {} namedBuilder
  obtain ⟨-, hafter, hcontainer⟩ := shown_of_run {} namedStart
  obtain ⟨hid, hdiscovery⟩ := hbefore hnone
  obtain ⟨hid', hdiscovery'⟩ := hafter ⟨∅, hpolled⟩
  exact ⟨hnone, hid, hdiscovery, hpolled, hid', hdiscovery', _, rfl, hcontainer _ rfl⟩

/-- A builder does not show at every point what has been set: once it has been polled, it does
not. -/
theorem not_forall_shown :
    ¬ ∀ (w : World) (steps : List Step),
      let b := w.stages.length
      let v := (w.newBuilder.1.run steps).1
      let calls := acceptedCalls b steps (w.newBuilder.1.run steps).2
      (v.stage b).containerId = (Call.latest? Call.containerId? calls).join ∧
        (v.stage b).discovery = (Call.latest? Call.discovery? calls).getD true := by
  intro h
  have hid : none = some "orders" := (h {} namedStart).1
  cases hid

end BeanContainer
