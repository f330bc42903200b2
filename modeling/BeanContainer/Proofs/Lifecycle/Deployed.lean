import BeanContainer.Proofs.Lifecycle.Story
import BeanContainer.Proofs.Lifecycle.Verdict
/-!
# What a start deploys

The poll that ends a start shows its sources to every extension, and hands them out with the
container if there is one. They are those that are to be expected from the calls on the builder and
the answers of the host: every class once, for the first reason to deploy it and by its first
reference, and no class is lost.
-/

namespace BeanContainer

/-- What extensions are told of the outcome of a start: the model, if there is one. -/
def outcomeNews (extensions : List Extension) :
    Except BootstrapError Model → List (Extension × Event)
  | .ok model => extensions.map (·, .afterDeploymentValidation model)
  | .error _ => []

namespace World

/-! ### What extensions are told -/

/-- The news of the poll that ends a start: the sources, and the model if there is a container. -/
lemma eventsOf_poll_of_finished {w : World} {b : Nat} {params : Properties} {s : Bootstrap}
    {asked : List Scan} {f : Findings} {outcome : Except BootstrapError Model}
    (h : w.progress? b params = some (s, asked, .finished f))
    (hr : (w.poll b params).2 = .ready outcome) :
    (w.poll b params).1.eventsOf b =
      w.eventsOf b ++ s.deployment.extensions.map (·, .afterBeanDiscovery (s.sources b f)) ++
        outcomeNews s.deployment.extensions outcome := by
  have hstep : (w.poll b params).1.eventsOf b =
      w.eventsOf b ++ (w.rounds b (.poll b params)).flatMap Round.told :=
    w.eventsOf_step b (.poll b params)
  rw [hstep]
  by_cases hp : s.problems f (w.registries s.deployment.registry) = []
  · rw [poll_of_eq_nil h hp] at hr
    obtain rfl := PollResult.ready.inj hr
    rw [rounds_poll_of_eq_nil h hp]
    simp [Round.told, outcomeNews]
  · rw [poll_of_ne_nil h hp] at hr
    obtain rfl := PollResult.ready.inj hr
    rw [rounds_poll_of_ne_nil h hp]
    simp [Round.told, outcomeNews]

/-- The container that the end of a start hands out has the model of the start. -/
lemma model_of_finished {w : World} {b : Nat} {params : Properties} {s : Bootstrap}
    {asked : List Scan} {f : Findings} {model : Model}
    (h : w.progress? b params = some (s, asked, .finished f))
    (hr : (w.poll b params).2 = .ready (.ok model)) : model = s.model b f := by
  by_cases hp : s.problems f (w.registries s.deployment.registry) = []
  · rw [poll_of_eq_nil h hp] at hr
    exact (Except.ok.inj (PollResult.ready.inj hr)).symm
  · rw [poll_of_ne_nil h hp] at hr
    cases hr

/-- A container has the model of the start that it comes out of, with what the host finds. -/
lemma InProgress.model_of_started {w₀ w : World} {b : Nat} {d : Deployment} {params : Properties}
    {model : Model} (hw : w₀.InProgress b params w) (hd : w₀.stage b = .configuring d)
    (hr : (w.poll b params).2 = .ready (.ok model)) :
    let s := w₀.startOf d params
    model = s.model b ((w₀.host d.environment).findings s.loader s.scans) := by
  obtain ⟨asked, hfin⟩ := hw.progress?_of_ready hd (hw.managed_of_started hd hr) hr
  exact model_of_finished hfin hr

/-! ### What is deployed -/

/-- A start deploys what is to be expected. -/
lemma sources_startOf {w : World} {d : Deployment} {calls : List Call} (h : d.Accumulates calls)
    (params : Properties) (b : Nat) :
    let s := w.startOf d params
    s.sources b ((w.host d.environment).findings s.loader s.scans) =
      Call.sources calls b (Call.found calls (w.host d.environment) w.isClosed) := by
  intro s
  rw [Bootstrap.sources, loader_startOf h, scans_startOf h]
  exact h.sources_eq b _

end World

/-- The sources that a start shows to its extensions, and those of the model if it succeeds, are
those that are to be expected. Every class that is mentioned occurs among them once, by its first
reference, and scans that are not asked find nothing. -/
theorem sources_of_start {before : List Step} {b : Nat} {params : Properties} {d : Deployment}
    {w : World} {outcome : Except BootstrapError Model}
    (hd : (({} : World).run before).1.stage b = .configuring d)
    (hm : ((({} : World).run before).1.host d.environment).managed = false)
    (hw : (({} : World).run before).1.InProgress b params w)
    (hr : (w.poll b params).2 = .ready outcome) :
    let w₀ := (({} : World).run before).1
    let calls := acceptedCalls b before (({} : World).run before).2
    let host := w₀.host d.environment
    let found := Call.found calls host w₀.isClosed
    let sources := Call.sources calls b found
    let extensions := Keyed.firsts Extension.serial (calls.flatMap Call.extensions)
    let classes := sources.filterMap Source.class?
    let mentioned := calls.flatMap Call.named ++ found ++
      (calls.flatMap Call.overrides).map TypeOverride.target
    ((w.poll b params).1.eventsOf b =
      w.eventsOf b ++ extensions.map (·, .afterBeanDiscovery sources) ++
        outcomeNews extensions outcome) ∧
    (∀ model, outcome = .ok model → model.sources = sources) ∧
    (classes.map ClassRef.id).Nodup ∧
    (∀ k, classes.find? (fun c => c.id = k) = mentioned.find? fun c => c.id = k) ∧
    (Call.latest? Call.discovery? calls = some false ∨
      w₀.isClosed (Call.loader calls host) = true → found = []) := by
  intro w₀ calls host found sources extensions classes mentioned
  have h : d.Accumulates calls := World.accumulates_run hd
  have hclasses : classes = Keyed.firsts ClassRef.id mentioned :=
    Call.filterMap_class?_sources calls b found
  obtain ⟨asked, hfin⟩ := hw.progress?_of_ready hd hm hr
  have hs : (w₀.startOf d params).sources b _ = sources := World.sources_startOf h params b
  have hx : (w₀.startOf d params).deployment.extensions = extensions := h.extensions
  refine ⟨?_, ?_, ?_, ?_, ?_⟩
  · rw [World.eventsOf_poll_of_finished hfin hr, ← hx, ← hs]
  · intro model hok
    subst hok
    rw [World.model_of_finished hfin hr, ← hs]
    rfl
  · rw [hclasses]
    exact Keyed.nodup_map_firsts mentioned
  · intro k
    rw [hclasses]
    exact Keyed.find?_firsts mentioned k
  · intro hoff
    change (Call.scans calls (w₀.isClosed (Call.loader calls host))).flatMap _ = []
    rw [Call.scans_eq_nil hoff, List.flatMap_nil]

/-- A builder with an interceptor and two overrides. Its host finds the interceptor and another
class in the package, after one poll in vain, and one of the overridden classes in an archive. -/
def overlappingStart : List Step :=
  [.addEnvironment (.hosted { reply := fun _ scan =>
      match scan with
      | .package _ => .after 1 (.ok
          [⟨⟨"app::Audit", .system⟩, {}⟩, ⟨⟨"app::Order", .system⟩, {}⟩])
      | .archives => .after 0 (.ok
          [⟨⟨"app::Order", .system⟩, {}⟩, ⟨⟨"app::Stock", .system⟩, {}⟩]) }),
    .newBuilder, .newExtension "log", .call 0 (.setEnvironment 0),
    .call 0 (.addExtensions [⟨1, "log"⟩]),
    .call 0 (.enable .interceptor [⟨⟨"app::Audit", .system⟩, { interceptor := true }⟩]),
    .call 0 (.addPackages false [⟨⟨"app::Audit", .system⟩, {}⟩]),
    .call 0 (.addOverrides
      [⟨⟨⟨"app::Stock", .system⟩, {}⟩, []⟩, ⟨⟨⟨"app::Ledger", .system⟩, {}⟩, []⟩])]

theorem sources_of_start_overlappingStart :
    ∃ d w model, (({} : World).run overlappingStart).1.stage 0 = .configuring d ∧
      ((({} : World).run overlappingStart).1.host d.environment).managed = false ∧
      (({} : World).run overlappingStart).1.InProgress 0 ∅ w ∧
      (w.poll 0 ∅).2 = .ready (.ok model) ∧
      (w.poll 0 ∅).1.eventsOf 0 =
        [(⟨1, "log"⟩, .afterBeanDiscovery model.sources),
          (⟨1, "log"⟩, .afterDeploymentValidation model)] ∧
      model.sources.filterMap Source.class? =
        [⟨⟨"app::Audit", .system⟩, { interceptor := true }⟩, ⟨⟨"app::Order", .system⟩, {}⟩,
          ⟨⟨"app::Stock", .system⟩, {}⟩, ⟨⟨"app::Ledger", .system⟩, {}⟩] := by
  have hd : (({} : World).run overlappingStart).1.stage 0 = .configuring _ := rfl
  have hw : (({} : World).run overlappingStart).1.InProgress 0 ∅
      ((({} : World).run overlappingStart).1.run [.poll 0 ∅]).1 := .inr ⟨[], _, _, rfl, rfl⟩
  obtain ⟨hnews, hsources, -⟩ := sources_of_start hd rfl hw rfl
  refine ⟨_, _, _, hd, rfl, hw, rfl, ?_, ?_⟩
  · rw [hsources _ rfl]
    exact hnews
  · rw [hsources _ rfl]
    rfl

end BeanContainer
