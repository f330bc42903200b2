import BeanContainer.Proofs.Deployment.Beans
import BeanContainer.Proofs.Lifecycle.Story
/-!
# The beans of a container

Beans are made on their own, by a caller, or by a builder when its start begins, one of each
description. No two beans that are ever made have the same identity (`World.nodup_id_made`). A
container has one bean of each description and each bean that was added, in the order of the calls.
If callers add only what has been made, then no two of them are the same.
-/

namespace BeanContainer

lemma eq_call_of_acceptedCall? {b : Nat} {s : Step} {r : StepResult} {c : Call}
    (h : acceptedCall? b s r = some c) : s = .call b c := by
  unfold acceptedCall? at h
  split at h
  · rw [Option.ite_none_right_eq_some] at h
    obtain ⟨rfl, hc⟩ := h
    rw [Option.some.inj hc]
  · cases h

namespace World

variable {w : World} {b : Nat}

/-! ### Beans that are made -/

/-- The beans that a step makes. A managed host lets a builder make none. -/
def births (w : World) : Step → List Bean
  | .makeBean d => [(w.makeBean d).2]
  | .poll b _ =>
    match w.stage b with
    | .configuring d => if (w.host d.environment).managed then [] else d.describedBeans b
    | _ => []
  | _ => []

/-- The beans that are made in a run, in order. -/
def made (w : World) : List Step → List Bean
  | [] => []
  | s :: ss => w.births s ++ (w.step s).1.made ss

lemma made_append (w : World) (ss ts : List Step) :
    w.made (ss ++ ts) = w.made ss ++ (w.run ss).1.made ts := by
  induction ss generalizing w with
  | nil => rfl
  | cons s ss ih => simp [made, ih]

/-- Every bean that a call adds has been made before, be it for a caller or by a builder. -/
def AddsMadeBeans (w : World) (steps : List Step) : Prop :=
  ∀ n b beans, steps[n]? = some (.call b (.addBeans beans)) → beans ⊆ w.made (steps.take n)

lemma AddsMadeBeans.of_append {ss ts : List Step} (h : w.AddsMadeBeans (ss ++ ts)) :
    w.AddsMadeBeans ss := by
  intro n b beans hn
  have hlt : n < ss.length := (List.getElem?_eq_some_iff.1 hn).1
  have hmade := h n b beans (by rw [List.getElem?_append_left hlt, hn])
  rwa [List.take_append_of_le_length (Nat.le_of_lt hlt)] at hmade

/-- A bean is made for a caller, or it is one that a builder makes when its start begins. -/
lemma cases_of_mem_births {s : Step} {x : Bean} (h : x ∈ w.births s) :
    (∃ d, s = .makeBean d ∧ x = ⟨.standalone w.serial, d⟩) ∨
      ∃ b params d, s = .poll b params ∧ w.stage b = .configuring d ∧ x ∈ d.describedBeans b := by
  cases s with
  | makeBean d => exact .inl ⟨d, rfl, List.mem_singleton.1 h⟩
  | poll b params =>
    simp only [births] at h
    split at h
    · rename_i d hd
      split at h
      · cases h
      · exact .inr ⟨b, params, d, rfl, hd, h⟩
    · cases h
  | _ => cases h

lemma nodup_id_births (w : World) (s : Step) : ((w.births s).map Bean.id).Nodup := by
  cases s with
  | makeBean d => exact List.nodup_singleton _
  | poll b params =>
    simp only [births]
    split
    · split
      · exact List.nodup_nil
      · exact Deployment.nodup_id_describedBeans _ _
    · exact List.nodup_nil
  | _ => exact List.nodup_nil

/-! ### Serial numbers -/

lemma serial_poll (w : World) (b : Nat) (params : Properties) :
    (w.poll b params).1.serial = w.serial := by
  generalize hr : w.poll b params = r
  cases PollRule.of_poll hr with
  | @launched s =>
    simp only [launch]
    cases s.lease? <;> rfl
  | _ => rfl

lemma serial_shutdown (w : World) (b : Nat) : (w.shutdown b).serial = w.serial := by
  cases h : w.container? b with
  | none => rw [shutdown_of_none h]
  | some c =>
    rw [shutdown_of_some h]
    cases c.lease <;> rfl

/-- A serial number that has been given out is not given out again. -/
lemma serial_step (w : World) (s : Step) : w.serial ≤ (w.step s).1.serial := by
  cases s with
  | openLoader name => exact Nat.le_succ _
  | newExtension name => exact Nat.le_succ _
  | makeBean d => exact Nat.le_succ _
  | poll b params => exact Nat.le_of_eq (w.serial_poll b params).symm
  | shutdown b => exact Nat.le_of_eq (w.serial_shutdown b).symm
  | abandon b =>
    rw [step, abandon]
    split <;> exact Nat.le_refl _
  | fire b name payload =>
    rw [step, fire]
    split <;> exact Nat.le_refl _
  | reserve r id =>
    rw [step, yielding, reserve]
    split <;> exact Nat.le_refl _
  | dropLease n =>
    rw [step, dropLease]
    split <;> exact Nat.le_refl _
  | produce bean =>
    rw [step, yielding, produce]
    split <;> exact Nat.le_refl _
  | _ => exact Nat.le_refl _

/-! ### Identity -/

/-- All the beans that have been made: their identities are distinct, and none of them is still to
be given out. -/
structure HasMade (w : World) (made : List Bean) : Prop where
  nodup : (made.map Bean.id).Nodup
  serial_lt : ∀ x ∈ made, ∀ serial, x.id = .standalone serial → serial < w.serial
  hasBegun : ∀ x ∈ made, ∀ b position, x.id = .configured b position → w.HasBegun b
  /-- A builder whose start waits has made its beans. -/
  waiting : ∀ b s pending, w.stage b = .bootstrapping s pending →
    s.deployment.describedBeans b ⊆ made

/-- A bean that is made is unlike those made before. -/
lemma HasMade.id_ne {made : List Bean} (h : w.HasMade made) {s : Step} {x y : Bean}
    (hx : x ∈ made) (hy : y ∈ w.births s) : x.id ≠ y.id := by
  intro hid
  rcases cases_of_mem_births hy with ⟨d, rfl, rfl⟩ | ⟨b, params, d, rfl, hd, hy⟩
  · exact Nat.lt_irrefl _ (h.serial_lt x hx _ hid)
  · obtain ⟨position, definition, -, rfl⟩ := Deployment.mem_describedBeans.1 hy
    exact (h.hasBegun x hx b position hid).begun d hd

/-- The beans of a start that a poll goes on with have been made, or are made by the poll. -/
lemma HasMade.describedBeans_subset {made : List Bean} (h : w.HasMade made) {params : Properties}
    {s : Bootstrap} {r : List Scan × Progress} (hp : w.progress? b params = some (s, r)) :
    s.deployment.describedBeans b ⊆ made ++ w.births (.poll b params) := by
  rcases progress?_cases hp with ⟨d, hd, hm, rfl, -⟩ | ⟨pending, hs, -⟩
  · have hbirths : w.births (.poll b params) = d.describedBeans b := by
      simp [births, hd, hm]
    rw [hbirths]
    exact List.subset_append_right _ _
  · exact List.subset_append_of_subset_left _ (h.waiting b s pending hs)

theorem HasMade.step {made : List Bean} (h : w.HasMade made) (s : Step) :
    (w.step s).1.HasMade (made ++ w.births s) := by
  constructor
  · rw [List.map_append, List.nodup_append]
    refine ⟨h.nodup, w.nodup_id_births s, ?_⟩
    intro id hid id' hid' heq
    obtain ⟨x, hx, rfl⟩ := List.mem_map.1 hid
    obtain ⟨y, hy, rfl⟩ := List.mem_map.1 hid'
    exact h.id_ne hx hy heq
  · intro x hx serial hid
    rcases List.mem_append.1 hx with hx | hx
    · exact Nat.lt_of_lt_of_le (h.serial_lt x hx serial hid) (w.serial_step s)
    · rcases cases_of_mem_births hx with ⟨d, rfl, rfl⟩ | ⟨b, params, d, rfl, hd, hx⟩
      · obtain rfl := BeanId.standalone.inj hid
        exact Nat.lt_succ_self _
      · obtain ⟨position, definition, -, rfl⟩ := Deployment.mem_describedBeans.1 hx
        cases hid
  · intro x hx b position hid
    rcases List.mem_append.1 hx with hx | hx
    · exact (h.hasBegun x hx b position hid).step s
    · rcases cases_of_mem_births hx with ⟨d, rfl, rfl⟩ | ⟨b', params, d, rfl, hd, hx⟩
      · cases hid
      · obtain ⟨position', definition, -, rfl⟩ := Deployment.mem_describedBeans.1 hx
        obtain ⟨rfl, rfl⟩ := BeanId.configured.inj hid
        exact hasBegun_poll (lt_length_of_configuring hd) params
  · intro b st pending hs
    have hrule := StageRule.of_step w b s
    rw [hs] at hrule
    rcases hrule.bootstrapping with hs' | ⟨params, asked, rfl, hp⟩
    · exact List.subset_append_of_subset_left _ (h.waiting b st pending hs')
    · exact h.describedBeans_subset hp

lemma HasMade.run {made : List Bean} (h : w.HasMade made) (steps : List Step) :
    (w.run steps).1.HasMade (made ++ w.made steps) := by
  induction steps generalizing w made with
  | nil => simpa [World.made] using h
  | cons s ss ih =>
    rw [run_cons, World.made, ← List.append_assoc]
    exact ih (h.step s)

lemma hasMade_run (steps : List Step) :
    (({} : World).run steps).1.HasMade (({} : World).made steps) := by
  have h : ({} : World).HasMade [] := by
    refine ⟨List.nodup_nil, ?_, ?_, ?_⟩
    · intro x hx
      cases hx
    · intro x hx
      cases hx
    · intro b s pending hs
      cases hs
  exact h.run steps

/-- No two beans that are ever made have the same identity. -/
theorem nodup_id_made (steps : List Step) : ((({} : World).made steps).map Bean.id).Nodup :=
  (hasMade_run steps).nodup

/-! ### Beans that are added -/

/-- A call that has been accepted was made in the run, on a builder that could be configured. -/
lemma exists_of_mem_acceptedCalls {steps : List Step} {c : Call}
    (h : c ∈ acceptedCalls b steps (w.run steps).2) :
    ∃ before rest d, steps = before ++ .call b c :: rest ∧
      (w.run before).1.stage b = .configuring d := by
  induction steps generalizing w with
  | nil => cases h
  | cons s ss ih =>
    rw [run_cons, acceptedCalls_cons, List.mem_append, Option.mem_toList] at h
    rcases h with h | h
    · obtain ⟨d, hd, -⟩ := (StageRule.of_step w b s).exists_of_acceptedCall? h
      obtain rfl := eq_call_of_acceptedCall? h
      exact ⟨[], ss, d, rfl, hd⟩
    · obtain ⟨before, rest, d, rfl, hd⟩ := ih h
      exact ⟨s :: before, rest, d, rfl, hd⟩

/-- What is added to a builder has been made, and not by the builder. -/
lemma AddsMadeBeans.of_mem_added {steps : List Step} (h : ({} : World).AddsMadeBeans steps)
    {x : Bean} (hx : x ∈ (acceptedCalls b steps (({} : World).run steps).2).flatMap Call.added) :
    x ∈ ({} : World).made steps ∧ ∀ position, x.id ≠ .configured b position := by
  obtain ⟨c, hc, hxc⟩ := List.mem_flatMap.1 hx
  obtain ⟨before, rest, d, rfl, hd⟩ := exists_of_mem_acceptedCalls hc
  cases c with
  | addBeans beans =>
    have hmade : x ∈ ({} : World).made before := by
      have hn := h before.length b beans (by simp)
      rw [List.take_left] at hn
      exact hn hxc
    rw [made_append]
    refine ⟨List.mem_append_left _ hmade, ?_⟩
    intro position hid
    exact ((hasMade_run before).hasBegun x hmade b position hid).begun d hd
  | _ => cases hxc

/-- The beans of a start that a poll goes on with have been made, and can be told apart. -/
lemma AddsMadeBeans.builtBeans {before rest : List Step} {params : Properties}
    (h : ({} : World).AddsMadeBeans (before ++ .poll b params :: rest)) {s : Bootstrap}
    {r : List Scan × Progress}
    (hp : (({} : World).run before).1.progress? b params = some (s, r)) :
    s.deployment.builtBeans b ⊆ ({} : World).made (before ++ .poll b params :: rest) ∧
      ((s.deployment.builtBeans b).map Bean.id).Nodup := by
  have hacc := accumulates_of_progress? (isMadeOf_run before b) hp
  have hdescribed := (hasMade_run before).describedBeans_subset hp
  have hadded : ∀ x, .ready x ∈ s.deployment.beans →
      x ∈ ({} : World).made before ∧ ∀ position, x.id ≠ .configured b position :=
    fun x hx => h.of_append.of_mem_added (hacc.mem_added hx)
  constructor
  · intro x hx
    rw [made_append, made, ← List.append_assoc]
    refine List.mem_append_left _ ?_
    rcases Deployment.mem_builtBeans.1 hx with hx | hx
    · exact hdescribed hx
    · exact List.mem_append_left _ (hadded x hx).1
  · refine Deployment.nodup_id_builtBeans ?_ fun x hx => (hadded x hx).2
    rw [hacc.filterMap_ready?]
    exact Keyed.nodup_map_firsts _

end World

/-! ### Containers -/

lemma Bootstrap.beans_model (s : Bootstrap) (builder : Nat) (f : Findings) :
    (s.model builder f).beans = s.deployment.builtBeans builder :=
  s.deployment.filterMap_bean?_sources builder f.classes

/-- The beans of a container that is started in a run: one of each description that calls give, in
full, and each bean that calls add, where it is added first, all in the order of the calls and after
the classes. No two beans that are made in the run are the same. If callers add only beans that have
been made, then the beans of the container have been made, too. So none of them is the same as
another, and a bean that the container makes of a description is the same as a bean of another
container only if it has been added to that. -/
theorem beans_of_run {before rest : List Step} {b : Nat} {params : Properties} {model : Model}
    (hr : ((({} : World).run before).1.poll b params).2 = .ready (.ok model)) :
    let steps := before ++ .poll b params :: rest
    let calls := acceptedCalls b before (({} : World).run before).2
    let entries := BeanEntry.kept [] (calls.flatMap Call.beans)
    let made := ({} : World).made steps
    model.beans = entries.mapIdx (fun position e => e.bean b position) ∧
    entries.filterMap BeanEntry.described? = calls.filterMap Call.described? ∧
    entries.filterMap BeanEntry.ready? = Keyed.firsts Bean.id (calls.flatMap Call.added) ∧
    (∃ classes, (∀ s ∈ classes, s.bean? = none) ∧
      model.sources = classes ++ model.beans.map .ofBean) ∧
    (made.map Bean.id).Nodup ∧
    (({} : World).AddsMadeBeans steps →
      model.beans ⊆ made ∧ (model.beans.map Bean.id).Nodup ∧
      ∀ before' rest' b' params' model', steps = before' ++ .poll b' params' :: rest' → b' ≠ b →
        ((({} : World).run before').1.poll b' params').2 = .ready (.ok model') →
        ∀ position definition, entries[position]? = some (.configured definition) →
          ∀ x ∈ model'.beans, x.id = .configured b position →
            x = ⟨.configured b position, definition⟩ ∧
              x ∈ (acceptedCalls b' before' (({} : World).run before').2).flatMap Call.added) := by
  intro steps calls entries made
  obtain ⟨st, asked, f, hp, -, rfl⟩ := World.exists_progress?_of_started hr
  have hacc := World.accumulates_of_progress? (World.isMadeOf_run before b) hp
  have hentries : st.deployment.beans = entries := hacc.beans_eq_kept
  have hbeans : (st.model b f).beans = st.deployment.builtBeans b := st.beans_model b f
  refine ⟨?_, ?_, ?_, ?_, World.nodup_id_made steps, ?_⟩
  · rw [hbeans, ← hentries]
    rfl
  · rw [← hentries]
    exact hacc.filterMap_described?
  · rw [← hentries]
    exact hacc.filterMap_ready?
  · refine ⟨st.deployment.classSources f.classes, ?_, ?_⟩
    · intro s hs
      exact Deployment.bean?_eq_none_of_mem_classSources hs
    · rw [hbeans]
      rfl
  · intro hadded
    obtain ⟨hmade, hnodup⟩ := hadded.builtBeans hp
    refine ⟨hbeans ▸ hmade, hbeans ▸ hnodup, ?_⟩
    intro before' rest' b' params' model' hsteps hb hr' position definition he x hx hid
    obtain ⟨st', asked', f', hp', -, rfl⟩ := World.exists_progress?_of_started hr'
    have hacc' := World.accumulates_of_progress? (World.isMadeOf_run before' b') hp'
    rw [st'.beans_model] at hx
    have hmade' : x ∈ made := by
      rw [hsteps] at hadded
      have hsubset := (hadded.builtBeans hp').1 hx
      rwa [← hsteps] at hsubset
    have hdescribed : ⟨.configured b position, definition⟩ ∈ made := by
      refine hmade (Deployment.mem_builtBeans.2 (.inl (Deployment.mem_describedBeans.2 ?_)))
      exact ⟨position, definition, hentries ▸ he, rfl⟩
    constructor
    · exact List.inj_on_of_nodup_map (World.nodup_id_made steps) hmade' hdescribed hid
    · exact hacc'.mem_added_of_id_eq hx hid hb

def clockClass : ClassRef := ⟨⟨"app::Clock", .system⟩, {}⟩

/-- A clock that was made beforehand. -/
def clock (serial : Nat) : Bean := ⟨.standalone serial, .ofClass clockClass⟩

/-- A clock that is made by a builder. -/
def describedClock (builder position : Nat) : Bean :=
  ⟨.configured builder position, (BeanDefinition.ofClass clockClass).edit [.scope "singleton"]⟩

/-- Two clocks are made, and two are described on a builder in the same words. The former are added
to it, one of them twice in one call and the other in two calls. -/
def clocks : List Step :=
  [.newBuilder, .newBuilder, .makeBean (.ofClass clockClass), .makeBean (.ofClass clockClass),
    .call 0 (.configureBean clockClass [.scope "singleton"]),
    .call 0 (.addBeans [clock 2, clock 1, clock 2]),
    .call 0 (.configureBean clockClass [.scope "singleton"]), .call 0 (.addBeans [clock 1])]

/-- Another builder is given a clock that the first one has made. -/
def borrowedClock : List Step := [.call 1 (.addBeans [describedClock 0 0, clock 1])]

theorem beans_of_run_clocks :
    let steps := clocks ++ .poll 0 ∅ :: (borrowedClock ++ [.poll 1 ∅])
    let before := clocks ++ .poll 0 ∅ :: borrowedClock
    ∃ model model', ({} : World).AddsMadeBeans steps ∧
      ((({} : World).run clocks).1.poll 0 ∅).2 = .ready (.ok model) ∧
      model.beans = [describedClock 0 0, clock 2, clock 1, describedClock 0 3] ∧
      (model.beans.map Bean.id).Nodup ∧
      ((({} : World).run before).1.poll 1 ∅).2 = .ready (.ok model') ∧
      describedClock 0 0 ∈ model'.beans ∧
      describedClock 0 0 ∈
        (acceptedCalls 1 before (({} : World).run before).2).flatMap Call.added := by
  intro steps before
  have hadded : ({} : World).AddsMadeBeans steps := by
    intro n b beans h
    match n with
    | 5 =>
      cases h
      have h2 : clock 2 ∈ ({} : World).made (steps.take 5) := .tail _ (.head _)
      exact List.cons_subset.2 ⟨h2, List.cons_subset.2 ⟨.head _, List.cons_subset.2
        ⟨h2, List.nil_subset _⟩⟩⟩
    | 7 =>
      cases h
      exact List.cons_subset.2 ⟨.head _, List.nil_subset _⟩
    | 9 =>
      cases h
      exact List.cons_subset.2 ⟨.tail _ (.tail _ (.head _)),
        List.cons_subset.2 ⟨.head _, List.nil_subset _⟩⟩
    | 0 | 1 | 2 | 3 | 4 | 6 | 8 | 10 => cases h
    | n + 11 => cases h
  obtain ⟨model, hr⟩ : ∃ model,
      ((({} : World).run clocks).1.poll 0 ∅).2 = .ready (.ok model) := ⟨_, rfl⟩
  obtain ⟨model', hr', hx⟩ : ∃ model',
      ((({} : World).run before).1.poll 1 ∅).2 = .ready (.ok model') ∧
        describedClock 0 0 ∈ model'.beans := ⟨_, rfl, .head _⟩
  obtain ⟨hbeans, -, -, -, -, hidentity⟩ := beans_of_run hr
  obtain ⟨-, hnodup, hshared⟩ := hidentity hadded
  refine ⟨model, model', hadded, hr, hbeans, hnodup, hr', hx, ?_⟩
  exact (hshared before [] 1 ∅ model' rfl (by decide) hr' 0 _ rfl _ hx rfl).2

end BeanContainer
