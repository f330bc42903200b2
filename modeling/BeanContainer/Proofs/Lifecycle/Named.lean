import BeanContainer.Proofs.Bean
import BeanContainer.Proofs.Lifecycle.Deployed
/-!
# Classes without a name

A call that introduces a class without a name is refused (`Call.fault?_of_nameless`), with one
exception: beans that were made beforehand are added as they are. So every class of a container has
a name, apart from those of such beans, and these may lack one.
-/

namespace BeanContainer

/-! ### Calls -/

namespace Call

/-- The classes that a call refers to, other than through beans made beforehand. -/
def introduced : Call → List ClassRef
  | .addBeanClasses cs | .addPackages _ cs | .enable _ cs => cs
  | .configureType c _ | .configureBean c _ => [c]
  | .addOverrides os => os.map TypeOverride.target
  | _ => []

/-- A call that introduces a class without a name has that fault. -/
lemma fault?_of_nameless {c : Call} {x : ClassRef} (hx : x ∈ c.introduced) (hname : x.name = "") :
    c.fault? = some .emptyClassName := by
  have hfault : ∀ cs : List ClassRef, x ∈ cs → classFault? cs = some .emptyClassName := fun cs h =>
    if_pos (List.any_eq_true.2 ⟨x, h, String.isEmpty_iff.2 hname⟩)
  cases c with
  | addBeanClasses cs => exact hfault cs hx
  | addPackages recursive cs => exact hfault cs hx
  | enable role cs => exact hfault cs hx
  | configureType c edits => exact hfault [c] hx
  | addOverrides os => exact hfault _ hx
  | configureBean c edits => exact hfault [c] hx
  | _ => cases hx

lemma named_subset_introduced (c : Call) : c.named ⊆ c.introduced := by
  intro x hx
  cases c with
  | addBeanClasses cs => exact hx
  | enable role cs =>
    cases role with
    | interceptor => exact hx
    | decorator => exact hx
    | _ => cases hx
  | _ => cases hx

lemma enabled_subset_introduced (c : Call) (role : Role) : c.enabled role ⊆ c.introduced := by
  intro x hx
  cases c with
  | enable r cs =>
    rw [enabled, List.mem_ite_nil_right] at hx
    exact hx.2
  | _ => cases hx

lemma targets_subset_introduced (c : Call) :
    c.overrides.map TypeOverride.target ⊆ c.introduced := by
  intro x hx
  cases c with
  | configureType c edits => exact hx
  | addOverrides os => exact hx
  | _ => cases hx

/-- A bean is described by a call that introduces its class, or has been made beforehand. -/
lemma introduced_of_mem_beans {c : Call} {e : BeanEntry} (h : e ∈ c.beans) :
    e.definition.implementation ∈ c.introduced ∨
      ∃ bs bean, c = .addBeans bs ∧ bean ∈ bs ∧ e = .ready bean := by
  cases c with
  | configureBean c edits =>
    obtain rfl := List.mem_singleton.1 h
    refine .inl (List.mem_singleton.2 ?_)
    exact (BeanDefinition.collects_edit c edits).implementation
  | addBeans bs =>
    obtain ⟨bean, hbean, rfl⟩ := List.mem_map.1 h
    exact .inr ⟨bs, bean, rfl, hbean, rfl⟩
  | _ => cases h

/-! ### Sources -/

/-- The class of a source has been introduced by a call or found by a scan, unless the source is a
bean that was made beforehand. -/
lemma cases_of_mem_sources {calls : List Call} {builder : Nat} {found : List ClassRef} {s : Source}
    (h : s ∈ sources calls builder found) :
    s.implementation ∈ calls.flatMap introduced ∨ s.implementation ∈ found ∨
      ∃ bs bean, .addBeans bs ∈ calls ∧ bean ∈ bs ∧ s = .ofBean bean := by
  cases s with
  | ofClass x origin m =>
    have hx : x ∈ (sources calls builder found).filterMap Source.class? :=
      List.mem_filterMap.2 ⟨_, h, rfl⟩
    rw [filterMap_class?_sources] at hx
    rcases List.mem_append.1 (Keyed.firsts_subset _ hx) with hx | hx
    · rcases List.mem_append.1 hx with hx | hx
      · obtain ⟨c, hc, hx⟩ := List.mem_flatMap.1 hx
        exact .inl (List.mem_flatMap.2 ⟨c, hc, c.named_subset_introduced hx⟩)
      · exact .inr (.inl hx)
    · rw [List.map_flatMap] at hx
      obtain ⟨c, hc, hx⟩ := List.mem_flatMap.1 hx
      exact .inl (List.mem_flatMap.2 ⟨c, hc, c.targets_subset_introduced hx⟩)
  | ofBean bean =>
    simp only [sources, List.mem_append, List.mem_map, reduceCtorEq, and_false, exists_false,
      false_or, Source.ofBean.injEq, exists_eq_right, List.mem_mapIdx] at h
    obtain ⟨position, hlt, rfl⟩ := h
    have he := eraseDupsBy_subset _ _ (List.getElem_mem hlt)
    generalize ((calls.flatMap beans).eraseDupsBy BeanEntry.same)[position] = e at he ⊢
    obtain ⟨c, hc, he⟩ := List.mem_flatMap.1 he
    rcases introduced_of_mem_beans he with hx | ⟨bs, bean, rfl, hbean, rfl⟩
    · refine .inl (List.mem_flatMap.2 ⟨c, hc, ?_⟩)
      cases e <;> exact hx
    · exact .inr (.inr ⟨bs, bean, hc, hbean, rfl⟩)

end Call

/-! ### Starts -/

/-- If a host finds classes with names only, then every source of a container has a class with a
name, unless it is a bean that was made beforehand and added by a call, and so has every class that
is enabled. All other calls that introduce a class without a name are refused and change nothing. -/
theorem names_of_start {before : List Step} {b : Nat} {params : Properties} {d : Deployment}
    {w : World} {model : Model}
    (hd : (({} : World).run before).1.stage b = .configuring d)
    (hw : (({} : World).run before).1.InProgress b params w)
    (hr : (w.poll b params).2 = .ready (.ok model))
    (hfound : ∀ loader scan,
      ∀ x ∈ (((({} : World).run before).1.host d.environment).reply loader scan).found,
        x.name ≠ "") :
    let calls := acceptedCalls b before (({} : World).run before).2
    (∀ s ∈ model.sources, s.implementation.name ≠ "" ∨
      ∃ bs bean, .addBeans bs ∈ calls ∧ bean ∈ bs ∧ s = .ofBean bean) ∧
    (∀ role, ∀ x ∈ (model.enablement.get role).toList, x.name ≠ "") ∧
    ∀ (v : World) d' c, v.stage b = .configuring d' → (∃ x ∈ c.introduced, x.name = "") →
      v.call b c = (v, .error (.illegalArgument .emptyClassName)) := by
  intro calls
  have h : d.Accumulates calls := World.accumulates_run hd
  obtain rfl := hw.model_of_started hd hr
  have hintroduced : ∀ c ∈ calls, ∀ x ∈ c.introduced, x.name ≠ "" := by
    intro c hc x hx hname
    have hfault := World.fault?_of_mem_acceptedCalls hd c hc
    rw [Call.fault?_of_nameless hx hname] at hfault
    cases hfault
  refine ⟨?_, ?_, ?_⟩
  · intro s hs
    have hs' : s ∈ Call.sources calls b
        (Call.found calls ((({} : World).run before).1.host d.environment)
          (({} : World).run before).1.isClosed) := by
      rwa [← World.sources_startOf h params]
    rcases Call.cases_of_mem_sources hs' with hx | hx | hbean
    · obtain ⟨c, hc, hx⟩ := List.mem_flatMap.1 hx
      exact .inl (hintroduced c hc _ hx)
    · obtain ⟨scan, -, hx⟩ := List.mem_flatMap.1 hx
      exact .inl (hfound _ scan _ hx)
    · exact .inr hbean
  · intro role x hx
    change x ∈ (d.enablement.get role).toList at hx
    rw [h.enablement] at hx
    obtain ⟨c, hc, hx⟩ := List.mem_flatMap.1 (Keyed.firsts_subset _ hx)
    exact hintroduced c hc _ (c.enabled_subset_introduced role hx)
  · rintro v d' c hd' ⟨x, hx, hname⟩
    exact v.call_of_fault? hd' (Call.fault?_of_nameless hx hname)

/-- A builder with a class, a bean that it describes, and a bean without a class name that was made
beforehand. Another class without a name is refused. -/
def namelessBean : List Step :=
  [.addEnvironment (.hosted { reply := fun _ _ => .after 0 (.ok [⟨⟨"app::Stock", .system⟩, {}⟩]) }),
    .newBuilder, .call 0 (.setEnvironment 0), .makeBean (.ofClass ⟨⟨"", .system⟩, {}⟩),
    .call 0 (.enable .alternative [⟨⟨"app::Stub", .system⟩, { alternative := true }⟩]),
    .call 0 (.configureBean ⟨⟨"app::Clock", .system⟩, {}⟩ []),
    .call 0 (.addBeans [⟨.standalone 1, .ofClass ⟨⟨"", .system⟩, {}⟩⟩]),
    .call 0 (.addBeanClasses [⟨⟨"", .system⟩, {}⟩])]

theorem names_of_start_namelessBean :
    ∃ d model, (({} : World).run namelessBean).1.stage 0 = .configuring d ∧
      ((({} : World).run namelessBean).1.poll 0 ∅).2 = .ready (.ok model) ∧
      (∀ loader scan,
        ∀ x ∈ (((({} : World).run namelessBean).1.host d.environment).reply loader scan).found,
          x.name ≠ "") ∧
      model.sources.map (fun s => s.implementation.name) = ["app::Stock", "app::Clock", ""] ∧
      ∀ x ∈ (model.enablement.get .alternative).toList, x.name ≠ "" := by
  have hd : (({} : World).run namelessBean).1.stage 0 = .configuring _ := rfl
  have hfound : ∀ x : ClassRef, x ∈ [⟨⟨"app::Stock", .system⟩, {}⟩] → x.name ≠ "" := by
    intro x hx
    rw [List.mem_singleton.1 hx]
    decide
  obtain ⟨-, henabled, -⟩ := names_of_start hd (.inl rfl) rfl fun _ _ => hfound
  exact ⟨_, _, hd, rfl, fun _ _ => hfound, rfl, henabled .alternative⟩

/-- Not every source of a container has a class with a name: beans that were made beforehand are
not looked at. -/
theorem not_forall_names :
    ¬ ∀ before b params d w model, (({} : World).run before).1.stage b = .configuring d →
      (({} : World).run before).1.InProgress b params w →
      (w.poll b params).2 = .ready (.ok model) →
      (∀ loader scan,
        ∀ x ∈ (((({} : World).run before).1.host d.environment).reply loader scan).found,
          x.name ≠ "") →
      (∀ s ∈ model.sources, s.implementation.name ≠ "") ∧
        ∀ role, ∀ x ∈ (model.enablement.get role).toList, x.name ≠ "" := by
  intro h
  obtain ⟨hsources, -⟩ := h
    [.newBuilder, .call 0 (.addBeans [⟨.standalone 1, .ofClass ⟨⟨"", .system⟩, {}⟩⟩])]
    0 ∅ _ _ _ rfl (.inl rfl) rfl fun _ _ _ hx => by cases hx
  exact hsources _ (List.mem_singleton_self _) rfl

end BeanContainer
