import BeanContainer.Proofs.Lifecycle.Deployed
import BeanContainer.Proofs.Lifecycle.Story
/-!
# What a container enables

The classes that a container enables in a role are those that the calls on its builder enabled in
it, in the order of the calls, and each class once. The same holds of extensions. Interceptors and
decorators are deployed as well, and a call that is refused leaves no trace.
-/

namespace BeanContainer

/-- Interceptors and decorators are named by the calls that enable them. -/
lemma Call.enabled_subset_named {role : Role} (hrole : role = .interceptor ∨ role = .decorator)
    (c : Call) : c.enabled role ⊆ c.named := by
  intro x hx
  cases c with
  | enable r cs =>
    rw [Call.enabled, List.mem_ite_nil_right] at hx
    obtain ⟨rfl, hx⟩ := hx
    rcases hrole with rfl | rfl <;> exact hx
  | _ => cases hx

/-- Interceptors and decorators are deployed because they are named. -/
lemma Call.mem_classesFor_of_enabled {role : Role}
    (hrole : role = .interceptor ∨ role = .decorator) {calls : List Call} (found : List ClassRef)
    {k : ClassId}
    (hk : k ∈ (Keyed.firsts ClassRef.id (calls.flatMap (Call.enabled role))).map ClassRef.id) :
    k ∈ (Call.classesFor calls found .synthetic).map ClassRef.id := by
  rw [Keyed.mem_map_firsts] at hk
  show k ∈ (Keyed.firsts ClassRef.id (calls.flatMap Call.named)).map ClassRef.id
  rw [Keyed.mem_map_firsts]
  refine List.map_subset _ ?_ hk
  intro x hx
  obtain ⟨c, hc, hx⟩ := List.mem_flatMap.1 hx
  exact List.mem_flatMap.2 ⟨c, hc, Call.enabled_subset_named hrole c hx⟩

/-- A container enables in each role the classes that were enabled by the calls that its builder
accepted, in the order of the calls and each where it occurs first, and has the extensions that were
added, likewise. Every interceptor and decorator is deployed because it is named. And the run of the
builder is the same without the calls that were refused. -/
theorem enablement_of_start {before : List Step} {b : Nat} {params : Properties} {d : Deployment}
    {w : World} {model : Model}
    (hd : (({} : World).run before).1.stage b = .configuring d)
    (hw : (({} : World).run before).1.InProgress b params w)
    (hr : (w.poll b params).2 = .ready (.ok model)) :
    let calls := acceptedCalls b before (({} : World).run before).2
    (∀ role, (model.enablement.get role).toList =
      Keyed.firsts ClassRef.id (calls.flatMap (Call.enabled role))) ∧
    model.extensions = Keyed.firsts Extension.serial (calls.flatMap Call.extensions) ∧
    (∀ role, role = .interceptor ∨ role = .decorator → ∀ c ∈ (model.enablement.get role).toList,
      c.id ∈ (model.sources.filterMap (Source.classFor? .synthetic)).map ClassRef.id) ∧
    ∀ pre c post e, before = pre ++ .call b c :: post →
      ((({} : World).run pre).1.call b c).2 = .error e →
      (({} : World).run before).1 = (({} : World).run (pre ++ post)).1 := by
  intro calls
  have h : d.Accumulates calls := World.accumulates_run hd
  have hm := hw.managed_of_started hd hr
  obtain ⟨asked, hfin⟩ := hw.progress?_of_ready hd hm hr
  obtain rfl := World.model_of_finished hfin hr
  refine ⟨h.enablement, h.extensions, ?_, ?_⟩
  · intro role hrole c hc
    show c.id ∈ ((Bootstrap.sources _ b _).filterMap _).map ClassRef.id
    rw [World.sources_startOf h, Call.filterMap_classFor?_sources]
    apply Call.mem_classesFor_of_enabled hrole
    rw [← h.enablement role]
    exact List.mem_map_of_mem hc
  · intro pre c post e hbefore he
    rw [hbefore]
    exact World.run_of_refused he

/-- A builder with two interceptors, the first of which is named twice with different markers, an
extension that is added twice, and a call that is refused for the second of its classes. -/
def repeatedEnablement : List Step :=
  [.newBuilder, .newExtension "log", .call 0 (.addExtensions [⟨1, "log"⟩, ⟨1, "log"⟩]),
    .call 0 (.enable .interceptor [⟨⟨"app::Trace", .system⟩, { interceptor := true }⟩]),
    .call 0 (.enable .interceptor [⟨⟨"app::Lock", .system⟩, {}⟩, ⟨⟨"", .system⟩, {}⟩]),
    .call 0 (.enable .interceptor
      [⟨⟨"app::Audit", .system⟩, { interceptor := true }⟩, ⟨⟨"app::Trace", .system⟩, {}⟩]),
    .call 0 (.enable .alternative [⟨⟨"app::Stub", .system⟩, { alternative := true }⟩])]

theorem enablement_of_start_repeatedEnablement :
    ∃ d model, (({} : World).run repeatedEnablement).1.stage 0 = .configuring d ∧
      ((({} : World).run repeatedEnablement).1.poll 0 ∅).2 = .ready (.ok model) ∧
      (model.enablement.get .interceptor).toList =
        [⟨⟨"app::Trace", .system⟩, { interceptor := true }⟩,
          ⟨⟨"app::Audit", .system⟩, { interceptor := true }⟩] ∧
      (model.enablement.get .alternative).toList =
        [⟨⟨"app::Stub", .system⟩, { alternative := true }⟩] ∧
      model.extensions = [⟨1, "log"⟩] ∧
      ∀ c ∈ (model.enablement.get .interceptor).toList,
        c.id ∈ (model.sources.filterMap (Source.classFor? .synthetic)).map ClassRef.id := by
  have hd : (({} : World).run repeatedEnablement).1.stage 0 = .configuring _ := rfl
  obtain ⟨henabled, hextensions, hdeployed, -⟩ := enablement_of_start hd (.inl rfl) rfl
  refine ⟨_, _, hd, rfl, ?_, ?_, ?_, ?_⟩
  · rw [henabled]
    rfl
  · rw [henabled]
    rfl
  · rw [hextensions]
    rfl
  · exact hdeployed .interceptor (.inl rfl)

end BeanContainer
