import BeanContainer.Proofs.Lifecycle.Plain
/-!
# What markers are good for

The markers of a class matter where the class is first enabled in a role, and nowhere else. Two runs
that take the same steps up to markers, and in which classes are first enabled with the same
markers, come to starts that go the same way: to the same container or for the same problems.
-/

namespace BeanContainer

/-- The markers with which calls first enable a class in a role, if they do. -/
def Call.firstMarkers? (role : Role) (k : ClassId) (calls : List Call) : Option Markers :=
  ((calls.flatMap (Call.enabled role)).find? fun c => c.id = k).map ClassRef.markers

/-- Two polls come to the same up to markers. -/
inductive PollResult.Agrees : PollResult → PollResult → Prop
  | pending : Agrees .pending .pending
  | started {m m' : Model} (h : m.plain = m'.plain) : Agrees (.ready (.ok m)) (.ready (.ok m'))
  | refused {ps ps' : List Problem} (h : ps.map Problem.plain = ps'.map Problem.plain) :
    Agrees (.ready (.error (.definition ps))) (.ready (.error (.definition ps')))
  | managed : Agrees (.ready (.error .managedHost)) (.ready (.error .managedHost))
  /-- The builder has been used up before, for better or worse. -/
  | used {e e' : SpentError} :
    Agrees (.ready (.error (.illegalState e))) (.ready (.error (.illegalState e')))

/-! ### Enabled classes -/

lemma Call.find?_enabled_congr {role : Role} {k : ClassId} {calls calls' : List Call}
    (h : firstMarkers? role k calls = firstMarkers? role k calls') :
    (calls.flatMap (enabled role)).find? (fun c => c.id = k) =
      (calls'.flatMap (enabled role)).find? fun c => c.id = k := by
  rw [firstMarkers?, firstMarkers?] at h
  cases hc : (calls.flatMap (enabled role)).find? fun c => c.id = k with
  | none =>
    rw [hc] at h
    exact (Option.map_eq_none_iff.1 h.symm).symm
  | some c =>
    rw [hc, Option.map_some] at h
    obtain ⟨c', hc', hmarkers⟩ := Option.map_eq_some_iff.1 h.symm
    have hid : c.id = k := by simpa using List.find?_some hc
    have hid' : c'.id = k := by simpa using List.find?_some hc'
    have heq : c = c' := by
      calc c = ⟨c.id, c.markers⟩ := rfl
        _ = ⟨c'.id, c'.markers⟩ := by rw [hid, hid', hmarkers]
    rw [hc', heq]

/-- Classes are enabled alike if each is first enabled with the same markers. -/
lemma Deployment.Accumulates.enablement_eq {d d' : Deployment} {calls calls' : List Call}
    (h : d.Accumulates calls) (h' : d'.Accumulates calls') (hd : d.plain = d'.plain) {role : Role}
    (hmarkers : ∀ k, Call.firstMarkers? role k calls = Call.firstMarkers? role k calls') :
    d.enablement.get role = d'.enablement.get role := by
  have hplain : (d.enablement.get role).plain = (d'.enablement.get role).plain := by
    rw [← Enablement.get_plain, ← Enablement.get_plain]
    exact congrArg (fun d => d.enablement.get role) hd
  have hkeys : (d.enablement.get role).toList.map ClassRef.id =
      (d'.enablement.get role).toList.map ClassRef.id := by
    rw [← ClassRef.map_id_map_plain, ← ClassList.toList_plain, hplain, ClassList.toList_plain,
      ClassRef.map_id_map_plain]
  refine ClassList.ext (Keyed.eq_of_find? (d.enablement.get role).nodup hkeys fun k => ?_)
  rw [h.enablement, h'.enablement, Keyed.find?_firsts, Keyed.find?_firsts]
  exact Call.find?_enabled_congr (hmarkers k)

/-! ### Polls -/

namespace World

lemma Alike.agrees_poll_of_none {w w' : World} (h : w.Alike w') {b : Nat} {params : Properties}
    (hp : w.progress? b params = none) (hp' : w'.progress? b params = none) :
    (w.poll b params).2.Agrees (w'.poll b params).2 := by
  have hmanaged : ∀ {v : World} {d : Deployment}, v.stage b = .configuring d →
      v.progress? b params = none →
      v.poll b params = (v.setStage b .failed, .ready (.error .managedHost)) := by
    intro v d hd hv
    refine poll_of_managed hd ?_ params
    by_contra hm
    cases (progress?_of_configuring hd (eq_false_of_ne_true hm)).symm.trans hv
  rcases Stage.plain_eq_cases (h.stages b) with
    ⟨d, d', hd, hd', -⟩ | ⟨s, p, s', p', hs, -⟩ | ⟨hs, hs'⟩
  · rw [hmanaged hd hp, hmanaged hd' hp']
    exact .managed
  · cases (progress?_of_bootstrapping hs params).symm.trans hp
  · obtain ⟨e, he⟩ := exists_poll_eq_of_used hs params
    obtain ⟨e', he'⟩ := exists_poll_eq_of_used hs' params
    rw [he, he']
    exact .used

lemma agrees_poll_of_finished {w w' : World} {b : Nat} {params : Properties} {s s' : Bootstrap}
    {asked asked' : List Scan} {f f' : Findings}
    (hp : w.progress? b params = some (s, asked, .finished f))
    (hp' : w'.progress? b params = some (s', asked', .finished f'))
    (hs : s.plain = s'.plain) (hf : f.plain = f'.plain)
    (henabled : ∀ role, s.deployment.enablement.get role = s'.deployment.enablement.get role)
    (hregistry : ∀ id, (w.registries s.deployment.registry).inUse id =
      (w'.registries s.deployment.registry).inUse id) :
    (w.poll b params).2.Agrees (w'.poll b params).2 := by
  have hr : s.deployment.registry = s'.deployment.registry :=
    (congrArg (fun s => s.deployment.registry) hs :)
  have hproblems := Bootstrap.map_plain_problems_congr hs henabled hf hregistry
  rw [hr] at hproblems
  by_cases hnil : s.problems f (w.registries s.deployment.registry) = []
  · have hnil' : s'.problems f' (w'.registries s'.deployment.registry) = [] := by
      rw [← List.map_eq_nil_iff, ← hproblems, ← hr, hnil, List.map_nil]
    rw [poll_of_eq_nil hp hnil, poll_of_eq_nil hp' hnil']
    refine .started ?_
    rw [Bootstrap.plain_model, Bootstrap.plain_model, hs, hf]
  · have hnil' : s'.problems f' (w'.registries s'.deployment.registry) ≠ [] := by
      rwa [ne_eq, ← List.map_eq_nil_iff, ← hproblems, List.map_eq_nil_iff, ← hr]
    rw [poll_of_ne_nil hp hnil, poll_of_ne_nil hp' hnil']
    refine .refused ?_
    rw [hr]
    exact hproblems

/-- Polls of worlds that are alike come to the same up to markers, if classes are enabled with the
same ones and the same identifiers are in use. -/
theorem Alike.agrees_poll {w w' : World} (h : w.Alike w') {b : Nat} {params : Properties}
    (henabled : ∀ s r s' r', w.progress? b params = some (s, r) →
      w'.progress? b params = some (s', r') → s.plain = s'.plain →
      ∀ role, s.deployment.enablement.get role = s'.deployment.enablement.get role)
    (hregistry : ∀ r, (w.stage b).registryNumber? = some r →
      ∀ id, (w.registries r).inUse id = (w'.registries r).inUse id) :
    (w.poll b params).2.Agrees (w'.poll b params).2 := by
  have hprogress := h.plainProgress?_congr b params
  rw [plainProgress?, plainProgress?] at hprogress
  cases hp : w.progress? b params with
  | none =>
    rw [hp] at hprogress
    exact h.agrees_poll_of_none hp (Option.map_eq_none_iff.1 hprogress.symm)
  | some r =>
    obtain ⟨s, asked, progress⟩ := r
    rw [hp, Option.map_some] at hprogress
    obtain ⟨⟨s', asked', progress'⟩, hp', hr⟩ := Option.map_eq_some_iff.1 hprogress.symm
    obtain ⟨hs, hr⟩ := Prod.mk.inj hr
    obtain ⟨-, hr⟩ := Prod.mk.inj hr
    cases progress with
    | waiting p =>
      cases progress' with
      | waiting p' =>
        rw [poll_of_progress? hp, poll_of_progress? hp']
        exact .pending
      | finished f' => cases hr
    | finished f =>
      cases progress' with
      | waiting p' => cases hr
      | finished f' =>
        exact agrees_poll_of_finished hp hp' hs.symm (Progress.finished.inj hr).symm
          (henabled s _ s' _ hp hp' hs.symm) (hregistry _ (stage_of_progress? hp).2)

end World

/-! ### Two runs -/

/-- Two runs take the same steps up to markers. If every class that is enabled is first enabled with
the same markers, and the same identifiers are in use, then a poll comes to the same in both: to
containers whose models agree and select alike, by whatever references, or to the same problems. -/
theorem agreement_of_starts {steps steps' : List Step} {b : Nat} {params : Properties}
    (hsteps : steps.map Step.plain = steps'.map Step.plain)
    (hmarkers : ∀ role k,
      Call.firstMarkers? role k (acceptedCalls b steps (({} : World).run steps).2) =
        Call.firstMarkers? role k (acceptedCalls b steps' (({} : World).run steps').2))
    (hregistry : ∀ r, ((({} : World).run steps).1.stage b).registryNumber? = some r → ∀ id,
      ((({} : World).run steps).1.registries r).inUse id =
        ((({} : World).run steps').1.registries r).inUse id) :
    let outcome := ((({} : World).run steps).1.poll b params).2
    let outcome' := ((({} : World).run steps').1.poll b params).2
    outcome.Agrees outcome' ∧
    ∀ model model', outcome = .ready (.ok model) → outcome' = .ready (.ok model') →
      (∀ c c' : ClassRef, c.id = c'.id →
        (model.select c).map Source.plain = (model'.select c').map Source.plain ∧
        (model.selectAll c).map Source.plain = (model'.selectAll c').map Source.plain) ∧
      ∀ name,
        (model.beansNamed name).map Source.plain = (model'.beansNamed name).map Source.plain := by
  intro outcome outcome'
  have halike := (World.Alike.refl {}).run hsteps
  have hagrees : outcome.Agrees outcome' := by
    refine halike.agrees_poll ?_ hregistry
    intro s r s' r' hp hp' hs role
    exact (World.accumulates_of_progress? (World.isMadeOf_run steps b) hp).enablement_eq
      (World.accumulates_of_progress? (World.isMadeOf_run steps' b) hp')
      (congrArg Bootstrap.deployment hs :) (hmarkers role)
  refine ⟨hagrees, ?_⟩
  intro model model' hmodel hmodel'
  have hplain : model.plain = model'.plain := by
    rw [hmodel, hmodel'] at hagrees
    cases hagrees with
    | started h => exact h
  refine ⟨fun c c' hc => ?_, fun name => ?_⟩
  · have hquery : c.plain = c'.plain := ClassRef.plain_eq_plain_iff.2 hc
    rw [Model.plain_select, Model.plain_select, Model.plain_selectAll, Model.plain_selectAll,
      hplain, hquery]
    exact ⟨rfl, rfl⟩
  · rw [Model.plain_beansNamed, Model.plain_beansNamed, hplain]

/-- Calls for an interceptor that is named again, a package, an override and a bean. All references
but the first carry the given markers. -/
def mixedCalls (m : Markers) : List Call :=
  [.setEnvironment 0,
    .enable .interceptor [⟨⟨"app::Audit", .system⟩, { interceptor := true }⟩],
    .enable .interceptor [⟨⟨"app::Audit", .system⟩, m⟩],
    .addPackages false [⟨⟨"app::Order", .system⟩, m⟩],
    .configureType ⟨⟨"app::Order", .system⟩, m⟩ [.add .type ⟨"Entity", ∅⟩],
    .configureBean ⟨⟨"app::Wall", .system⟩, m⟩
      [.name "clock", .addType ⟨⟨"app::Clock", .system⟩, m⟩]]

/-- The classes that a host answers with, after it has been polled once, carry the markers, too. -/
def mixedMarkers (m : Markers) : List Step :=
  [.addEnvironment (.hosted
      { reply := fun _ _ => .after 1 (.ok [⟨⟨"app::Audit", .system⟩, m⟩,
          ⟨⟨"app::Order", .system⟩, m⟩]) }),
    .newBuilder] ++ (mixedCalls m).map (.call 0) ++ [.poll 0 ∅, .poll 0 ∅]

lemma acceptedCalls_mixedMarkers (m : Markers) :
    acceptedCalls 0 (mixedMarkers m) (({} : World).run (mixedMarkers m)).2 = mixedCalls m := rfl

/-- The markers of the first reference are the only ones that the class is first enabled with. -/
lemma firstMarkers?_mixedCalls (m : Markers) (role : Role) (k : ClassId) :
    Call.firstMarkers? role k (mixedCalls m) =
      if role = .interceptor ∧ k = ⟨"app::Audit", .system⟩ then some { interceptor := true }
      else none := by
  cases role with
  | interceptor =>
    have henabled : (mixedCalls m).flatMap (Call.enabled .interceptor) =
        [⟨⟨"app::Audit", .system⟩, { interceptor := true }⟩, ⟨⟨"app::Audit", .system⟩, m⟩] := rfl
    rw [Call.firstMarkers?, henabled]
    by_cases hk : k = ⟨"app::Audit", .system⟩
    · simp [hk]
    · simp [hk, Ne.symm hk]
  | _ => rfl

theorem agreement_of_starts_mixedMarkers :
    ∃ model model',
      ((({} : World).run (mixedMarkers {})).1.poll 0 ∅).2 = .ready (.ok model) ∧
      ((({} : World).run (mixedMarkers { decorator := true })).1.poll 0 ∅).2 =
        .ready (.ok model') ∧
      model.beanClasses.map ClassRef.markers = [{ interceptor := true }, {}] ∧
      model'.beanClasses.map ClassRef.markers =
        [{ interceptor := true }, { decorator := true }] ∧
      (model.select ⟨⟨"app::Clock", .system⟩, { alternative := true }⟩).map Source.plain =
        (model'.select ⟨⟨"app::Clock", .system⟩, {}⟩).map Source.plain := by
  have hsteps : (mixedMarkers {}).map Step.plain =
      (mixedMarkers { decorator := true }).map Step.plain := rfl
  have hmarkers : ∀ role k,
      Call.firstMarkers? role k (acceptedCalls 0 (mixedMarkers {})
        (({} : World).run (mixedMarkers {})).2) =
      Call.firstMarkers? role k (acceptedCalls 0 (mixedMarkers { decorator := true })
        (({} : World).run (mixedMarkers { decorator := true })).2) := by
    intro role k
    rw [acceptedCalls_mixedMarkers, acceptedCalls_mixedMarkers, firstMarkers?_mixedCalls,
      firstMarkers?_mixedCalls]
  obtain ⟨-, hselect⟩ := @agreement_of_starts _ _ 0 ∅ hsteps hmarkers fun _ _ _ => rfl
  exact ⟨_, _, rfl, rfl, rfl, rfl, ((hselect _ _ rfl rfl).1 _ _ rfl).1⟩

end BeanContainer
