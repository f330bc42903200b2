import BeanContainer.Proofs.Lifecycle.Custody
/-!
# One container per identifier

Builders that carry the same identifier for the same registry are started in any interleaving. Each
poll that ends a start is a `Completion`; `World.completions` lists those of a run in order. A
completion whose deployment has no problem of its own succeeds exactly if no container that is up
holds the identifier (`Custody.Agrees.result_of_completion`), so as long as none goes down, the
first of them succeeds and all later ones are refused.

Starts that are refused for problems of their own, that find a managed host or that are abandoned do
not occur among the holders (`Custody.mem_observe`), which is why they cannot stand in the way of
anybody.
-/

namespace BeanContainer

/-- The end of a start. -/
structure Completion where
  /-- The world in which the start was polled last. -/
  world : World
  builder : Nat
  start : Bootstrap
  findings : Findings
  /-- What the poll yielded. -/
  result : PollResult

namespace Completion

/-- The problems of a start that do not depend on other containers. -/
def ownProblems (c : Completion) : List Problem := c.start.ownProblems c.findings

/-- The start succeeds. -/
def Succeeds (c : Completion) : Prop :=
  c.result = .ready (.ok (c.start.model c.builder c.findings))

/-- The start is refused with a list of problems. -/
def RefusedWith (c : Completion) (problems : List Problem) : Prop :=
  c.result = .ready (.error (.definition problems))

end Completion

namespace World

/-- A container that is up holds a lease. -/
def Holds (w : World) (b : Nat) (l : Lease) : Prop :=
  ∃ c, w.container? b = some c ∧ c.lease = some l

/-- The end of a start, if a step is one. -/
def completion? (w : World) : Step → Option Completion
  | .poll b params =>
    (w.concluding? b params).map fun e => ⟨w, b, e.1, e.2, (w.poll b params).2⟩
  | _ => none

/-- The starts that come to an end in a run, in order. -/
def completions (w : World) : List Step → List Completion
  | [] => []
  | s :: ss => (w.completion? s).toList ++ (w.step s).1.completions ss

lemma holds_iff {w : World} {b : Nat} {l : Lease} :
    w.Holds b l ↔ (w.stage b).lease? = some l := by
  rw [Stage.lease?, Option.bind_eq_some_iff]
  rfl

lemma completion?_eq_some_iff {w : World} {s : Step} {c : Completion} :
    w.completion? s = some c ↔
      ∃ params asked, s = .poll c.builder params ∧ c.world = w ∧
        w.progress? c.builder params = some (c.start, asked, .finished c.findings) ∧
        c.result = (w.poll c.builder params).2 := by
  constructor
  · intro h
    cases s with
    | poll b params =>
      obtain ⟨⟨st, f⟩, hc, rfl⟩ := Option.map_eq_some_iff.1 h
      obtain ⟨asked, hp⟩ := concluding?_eq_some_iff.1 hc
      exact ⟨params, asked, rfl, rfl, hp, rfl⟩
    | _ => cases h
  · rintro ⟨params, asked, rfl, rfl, hp, hr⟩
    rw [completion?, concluding?_eq_some_iff.2 ⟨asked, hp⟩, Option.map_some, ← hr]

/-- A completion of a run is one of its steps. -/
lemma exists_of_mem_completions {w : World} {steps : List Step} {c : Completion}
    (h : c ∈ w.completions steps) :
    ∃ before s after, steps = before ++ s :: after ∧
      (w.run before).1.completion? s = some c := by
  induction steps generalizing w with
  | nil => cases h
  | cons s ss ih =>
    rcases List.mem_append.1 h with h | h
    · exact ⟨[], s, ss, rfl, by simpa using h⟩
    · obtain ⟨before, s', after, rfl, hc⟩ := ih h
      exact ⟨s :: before, s', after, rfl, hc⟩

/-- A start that comes to an end is refused for its problems, or succeeds if there are none. -/
lemma result_of_completion? {w : World} {s : Step} {c : Completion}
    (h : w.completion? s = some c) :
    let problems := c.start.problems c.findings (w.registries c.start.deployment.registry)
    (problems = [] → c.Succeeds) ∧ (problems ≠ [] → c.RefusedWith problems) := by
  obtain ⟨params, asked, rfl, -, hp, hr⟩ := completion?_eq_some_iff.1 h
  simp only [Completion.Succeeds, Completion.RefusedWith, hr]
  exact ⟨fun hn => by rw [poll_of_eq_nil hp hn], fun hn => by rw [poll_of_ne_nil hp hn]⟩

end World

/-- Whether an identifier is held is not one of a deployment's own problems. -/
lemma Bootstrap.duplicate_not_mem_ownProblems (s : Bootstrap) (f : Findings) (id : String) :
    Problem.duplicateContainerId id ∉ s.ownProblems f := by
  simp only [ownProblems, Deployment.problems, Deployment.enablementProblems,
    Deployment.overrideProblems, Deployment.nameProblems, List.mem_append, List.mem_map,
    List.mem_flatMap]
  rintro ((((h | ⟨_, _, h⟩) | ⟨_, _, _, _, h⟩) | ⟨_, _, h⟩) | ⟨_, _, h⟩)
  · split at h <;> simp at h
  all_goals cases h

namespace Custody

/-! ### Who becomes a holder and who stays one -/

/-- A holder that was none before has reserved its lease, or is a container that has just gone
up. -/
lemma mem_observe {k : Custody} {s : Step} {r : StepResult} {h : Holder} {l : Lease}
    (hm : (h, l) ∈ (k.observe s r).holders) :
    (h, l) ∈ k.holders ∨ s = .reserve l.registry l.id ∨
      ∃ b params model, h = .container b ∧ s = .poll b params ∧
        r = .polled (.ready (.ok model)) ∧ k.assigned b = l.registry ∧
        model.containerId = some l.id := by
  unfold observe at hm
  split at hm
  · rcases mem_take.1 hm with ⟨-, rfl⟩ | hm
    · exact .inr (.inl rfl)
    · exact .inl hm
  · exact .inl (mem_drop.1 hm).1
  · exact .inl hm
  · split at hm
    · rename_i hid
      rcases mem_take.1 hm with ⟨rfl, rfl⟩ | hm
      · exact .inr (.inr ⟨_, _, _, rfl, rfl, rfl, rfl, hid⟩)
      · exact .inl hm
    · exact .inl hm
  · exact .inl (mem_drop.1 hm).1
  · exact .inl hm

/-- A container holds what it holds until it goes down. -/
lemma container_mem_observe {k : Custody} {s : Step} {r : StepResult} {b : Nat} {l : Lease}
    (hm : (Holder.container b, l) ∈ k.holders) (hs : s ≠ .shutdown b) :
    (Holder.container b, l) ∈ (k.observe s r).holders := by
  unfold observe
  split
  · exact mem_take.2 (.inr hm)
  · exact mem_drop.2 ⟨hm, by simp⟩
  · exact hm
  · split
    · exact mem_take.2 (.inr hm)
    · exact hm
  · exact mem_drop.2 ⟨hm, by rintro ⟨⟩; exact hs rfl⟩
  · exact hm

/-- Where nobody reserves a lease on its own, only containers come to hold it. -/
lemma lease_not_mem_observeAll {w : World} {k : Custody} {steps : List Step} {l : Lease}
    (hk : ∀ n, (Holder.lease n, l) ∉ k.holders)
    (hs : Step.reserve l.registry l.id ∉ steps) :
    ∀ n, (Holder.lease n, l) ∉ (k.observeAll steps (w.run steps).2).holders := by
  induction steps generalizing w k with
  | nil => exact hk
  | cons s ss ih =>
    rw [List.mem_cons, not_or] at hs
    refine ih (fun n hm => ?_) hs.2
    rcases mem_observe hm with hm | rfl | ⟨b, params, model, hn, -⟩
    · exact hk n hm
    · exact hs.1 rfl
    · cases hn

variable {k : Custody} {w : World} {l : Lease}

lemma Agrees.holds_iff (h : k.Agrees w) {b : Nat} :
    w.Holds b l ↔ (Holder.container b, l) ∈ k.holders := by
  rw [World.holds_iff, (h.stage b).holder_iff]

/-- What no lease holds on its own is in use exactly if a container holds it. -/
lemma Agrees.held_iff_holds (h : k.Agrees w) (hk : ∀ n, (Holder.lease n, l) ∉ k.holders) :
    l.id ∈ (w.registries l.registry).held ↔ ∃ b, w.Holds b l := by
  rw [h.covers.held_iff]
  constructor
  · rintro ⟨x, hx⟩
    cases x with
    | lease n => exact absurd hx (hk n)
    | container b => exact ⟨b, h.holds_iff.2 hx⟩
  · rintro ⟨b, hb⟩
    exact ⟨_, h.holds_iff.1 hb⟩

/-- At most one container that is up holds a lease. -/
lemma Agrees.holds_unique (h : k.Agrees w) {b b' : Nat} (hb : w.Holds b l)
    (hb' : w.Holds b' l) : b = b' :=
  Holder.container.inj (h.covers.holder_unique (h.holds_iff.1 hb) (h.holds_iff.1 hb'))

/-- How a start that wants a lease comes to an end: what matters is whether its deployment has
problems of its own, and whether a container holds the lease at that moment. -/
lemma Agrees.result_of_completion (h : k.Agrees w) (hk : ∀ n, (Holder.lease n, l) ∉ k.holders)
    {s : Step} {c : Completion} (hc : w.completion? s = some c) (hl : c.start.lease? = some l) :
    (c.ownProblems = [] → (∀ b, ¬ w.Holds b l) → c.Succeeds) ∧
    (c.ownProblems = [] → (∃ b, w.Holds b l) → c.RefusedWith [.duplicateContainerId l.id]) ∧
    (c.ownProblems ≠ [] → ∃ ps, c.RefusedWith ps ∧
      (.duplicateContainerId l.id ∈ ps ↔ ∃ b, w.Holds b l)) := by
  obtain ⟨hok, hno⟩ := World.result_of_completion? hc
  have hp : c.start.problems c.findings (w.registries c.start.deployment.registry) =
      c.ownProblems ++ if l.id ∈ (w.registries l.registry).held then
        [.duplicateContainerId l.id] else [] := by
    rw [Bootstrap.problems, Bootstrap.identifierProblems_of_some hl,
      (Bootstrap.lease?_eq_some_iff.1 hl).2]
    rfl
  rw [hp] at hok hno
  refine ⟨?_, ?_, ?_⟩
  · intro hown hfree
    apply hok
    rw [hown, if_neg ((h.held_iff_holds hk).not.2 (by simpa using hfree)), List.append_nil]
  · intro hown hheld
    have hh := (h.held_iff_holds hk).2 hheld
    rw [hown, if_pos hh] at hno
    exact hno (by simp)
  · intro hown
    have hdup : Problem.duplicateContainerId l.id ∉ c.ownProblems :=
      c.start.duplicate_not_mem_ownProblems _ _
    refine ⟨_, hno (by simp [hown]), ?_⟩
    rw [List.mem_append, or_iff_right hdup, ← h.held_iff_holds hk]
    split <;> simp_all

/-! ### Who wins -/

/-- Whoever holds a lease held it before, or is the container of a start that has just come to an
end without problems. -/
lemma Agrees.origin_step (h : k.Agrees w) {s : Step} (hs : s ≠ .reserve l.registry l.id)
    {x : Holder} (hx : (x, l) ∈ (k.observe s (w.step s).2).holders) :
    (x, l) ∈ k.holders ∨ ∃ c, w.completion? s = some c ∧ c.start.lease? = some l ∧
      c.ownProblems = [] ∧ c.Succeeds ∧ x = .container c.builder := by
  rcases mem_observe hx with hx | rfl | ⟨b, params, model, rfl, rfl, hr, ha, hid⟩
  · exact .inl hx
  · exact absurd rfl hs
  · have hr' : (w.poll b params).2 = .ready (.ok model) := by
      simpa [World.step, World.yielding] using hr
    generalize hpoll : w.poll b params = r at hr'
    cases World.PollRule.of_poll hpoll with
    | @launched s asked f hp hnil =>
      obtain rfl : s.model b f = model := by simpa using hr'
      have hreg := (h.stage b).assigned _ (World.stage_of_progress? hp).2
      refine .inr ⟨⟨w, b, s, f, (w.poll b params).2⟩, ?_, ?_, (List.append_eq_nil_iff.1 hnil).1,
        by rw [Completion.Succeeds, hpoll], rfl⟩
      · exact World.completion?_eq_some_iff.2 ⟨params, asked, rfl, rfl, hp, rfl⟩
      · exact Bootstrap.lease?_eq_some_iff.2 ⟨hid, hreg.symm.trans ha⟩
    | _ => cases hr'

/-- Whoever holds a lease held it when the run began, or is the container of a start that came to an
end in the run without problems. -/
lemma Agrees.origin_run (h : k.Agrees w) {steps : List Step}
    (hs : Step.reserve l.registry l.id ∉ steps) {x : Holder}
    (hx : (x, l) ∈ (k.observeAll steps (w.run steps).2).holders) :
    (x, l) ∈ k.holders ∨ ∃ c ∈ w.completions steps, c.start.lease? = some l ∧
      c.ownProblems = [] ∧ c.Succeeds ∧ x = .container c.builder := by
  induction steps generalizing k w with
  | nil => exact .inl hx
  | cons s ss ih =>
    rw [List.mem_cons, not_or] at hs
    rcases ih (h.step s) hs.2 hx with hx | ⟨c, hc, hrest⟩
    · rcases h.origin_step (Ne.symm hs.1) hx with hx | ⟨c, hc, hrest⟩
      · exact .inl hx
      · exact .inr ⟨c, List.mem_append_left _ (Option.mem_toList.2 hc), hrest⟩
    · exact .inr ⟨c, List.mem_append_right _ hc, hrest⟩

/-- A start that succeeds leaves a container that holds its lease. -/
lemma Agrees.holds_of_succeeds (h : k.Agrees w) {s : Step} {c : Completion}
    (hc : w.completion? s = some c) (hl : c.start.lease? = some l) (hok : c.Succeeds) :
    (Holder.container c.builder, l) ∈ (k.observe s (w.step s).2).holders := by
  obtain ⟨params, asked, rfl, -, hp, hr⟩ := World.completion?_eq_some_iff.1 hc
  obtain ⟨hid, hreg⟩ := Bootstrap.lease?_eq_some_iff.1 hl
  have ha := (h.stage c.builder).assigned _ (World.stage_of_progress? hp).2
  have hstep : (w.step (.poll c.builder params)).2 =
      .polled (.ready (.ok (c.start.model c.builder c.findings))) := by
    rw [World.step, World.yielding, ← hr, hok]
  rw [hstep, observe_of_containerId hid, ha, hreg]
  exact mem_take.2 (.inl ⟨rfl, rfl⟩)

/-- As long as a container holds a lease and does not go down, everybody else is refused. -/
lemma Agrees.refused_of_holds (h : k.Agrees w) (hk : ∀ n, (Holder.lease n, l) ∉ k.holders)
    {steps : List Step} (hres : Step.reserve l.registry l.id ∉ steps)
    (hup : ∀ before b after, steps = before ++ .shutdown b :: after →
      ¬ (w.run before).1.Holds b l)
    {b : Nat} (hb : w.Holds b l) {c : Completion} (hc : c ∈ w.completions steps)
    (hl : c.start.lease? = some l) (hown : c.ownProblems = []) :
    c.RefusedWith [.duplicateContainerId l.id] := by
  induction steps generalizing k w with
  | nil => cases hc
  | cons s ss ih =>
    rw [List.mem_cons, not_or] at hres
    rcases List.mem_append.1 hc with hc | hc
    · exact (h.result_of_completion hk (by simpa using hc) hl).2.1 hown ⟨b, hb⟩
    · refine ih (h.step s) (fun n hn => ?_) hres.2 (fun before b' after hss => ?_) ?_ hc
      · rcases mem_observe hn with hn | rfl | ⟨_, _, _, hn, -⟩
        · exact hk n hn
        · exact hres.1 rfl
        · cases hn
      · exact hup (s :: before) b' after (by rw [hss]; rfl)
      · refine (h.step s).holds_iff.2 (container_mem_observe (h.holds_iff.1 hb) ?_)
        rintro rfl
        exact hup [] b ss rfl hb

/-- Where nobody holds a lease at first and no container that holds it goes down, the first start
without problems succeeds, and the later ones are refused. -/
lemma Agrees.first_succeeds (h : k.Agrees w) (hfree : ∀ x, (x, l) ∉ k.holders)
    {steps : List Step} (hres : Step.reserve l.registry l.id ∉ steps)
    (hup : ∀ before b after, steps = before ++ .shutdown b :: after →
      ¬ (w.run before).1.Holds b l) {i : Nat} {c : Completion}
    (hc : ((w.completions steps).filter fun c =>
      c.start.lease? = some l ∧ c.ownProblems = [])[i]? = some c) :
    (i = 0 → c.Succeeds) ∧ (i ≠ 0 → c.RefusedWith [.duplicateContainerId l.id]) := by
  induction steps generalizing k w with
  | nil => simp [World.completions] at hc
  | cons s ss ih =>
    have hk : ∀ n, (Holder.lease n, l) ∉ k.holders := fun n => hfree _
    have hres' := List.not_mem_of_not_mem_cons hres
    have hup' : ∀ before b after, ss = before ++ .shutdown b :: after →
        ¬ ((w.step s).1.run before).1.Holds b l := fun before b after hss =>
      hup (s :: before) b after (by rw [hss]; rfl)
    simp only [World.completions, List.filter_append] at hc
    by_cases hwin : ∃ x, (x, l) ∈ (k.observe s (w.step s).2).holders
    · obtain ⟨x, hx⟩ := hwin
      obtain ⟨c₀, hc₀, hl₀, hown₀, hok₀, rfl⟩ :=
        (h.origin_step (fun e => hres (e ▸ List.mem_cons_self)) hx).resolve_left (hfree x)
      rw [hc₀] at hc
      simp only [Option.toList_some, List.filter_cons, hl₀, hown₀, and_self, decide_true,
        if_true, List.filter_nil, List.cons_append, List.nil_append] at hc
      refine ⟨?_, fun hi => ?_⟩
      · rintro rfl
        obtain rfl : c₀ = c := by simpa using hc
        exact hok₀
      · obtain ⟨j, rfl⟩ := Nat.exists_eq_succ_of_ne_zero hi
        rw [List.getElem?_cons_succ] at hc
        obtain ⟨hc, hv⟩ := List.mem_filter.1 (List.mem_of_getElem? hc)
        obtain ⟨hl, hown⟩ := of_decide_eq_true hv
        refine (h.step s).refused_of_holds (fun n hn => ?_) hres' hup'
          ((h.step s).holds_iff.2 hx) hc hl hown
        cases (h.step s).covers.holder_unique hn hx
    · have hfree' : ∀ x, (x, l) ∉ (k.observe s (w.step s).2).holders := not_exists.1 hwin
      have hnil : (w.completion? s).toList.filter (fun c =>
          c.start.lease? = some l ∧ c.ownProblems = []) = [] := by
        refine List.filter_eq_nil_iff.2 fun c₀ hc₀ hv => ?_
        obtain ⟨hl₀, hown₀⟩ := of_decide_eq_true hv
        have hc₀ := Option.mem_toList.1 hc₀
        have hok := (h.result_of_completion hk hc₀ hl₀).1 hown₀ fun b hb =>
          hfree _ (h.holds_iff.1 hb)
        exact hfree' _ (h.holds_of_succeeds hc₀ hl₀ hok)
      rw [hnil, List.nil_append] at hc
      exact ih (h.step s) hfree' hres' hup' hc

end Custody

/-- In a run in which nobody reserves a lease on its own, at most one container holds it at every
moment, and whoever holds it comes from a start without problems. Such a start succeeds unless a
container holds its lease, and is refused for that reason alone otherwise; a start with other
problems is refused for its lease as well exactly if a container holds it. As long as none of these
containers goes down, the first start without problems is the only one that succeeds. -/
theorem exclusive_lease (before steps : List Step) (l : Lease)
    (hlease : some l ∉ (({} : World).run before).1.leases)
    (hreserve : Step.reserve l.registry l.id ∉ steps) :
    let w := (({} : World).run before).1
    (∀ ss, ss <+: steps → ∀ b, (w.run ss).1.Holds b l →
      (∀ b', (w.run ss).1.Holds b' l → b' = b) ∧
      (w.Holds b l ∨ ∃ c ∈ w.completions ss, c.builder = b ∧ c.start.lease? = some l ∧
        c.ownProblems = [] ∧ c.Succeeds)) ∧
    (∀ c ∈ w.completions steps, c.start.lease? = some l →
      (c.ownProblems = [] → (∀ b, ¬ c.world.Holds b l) → c.Succeeds) ∧
      (c.ownProblems = [] → (∃ b, c.world.Holds b l) →
        c.RefusedWith [.duplicateContainerId l.id]) ∧
      (c.ownProblems ≠ [] → ∃ ps, c.RefusedWith ps ∧
        (.duplicateContainerId l.id ∈ ps ↔ ∃ b, c.world.Holds b l))) ∧
    ((∀ b, ¬ w.Holds b l) →
      (∀ ss b rest, steps = ss ++ .shutdown b :: rest → ¬ (w.run ss).1.Holds b l) →
      ∀ i c, ((w.completions steps).filter fun c =>
          c.start.lease? = some l ∧ c.ownProblems = [])[i]? = some c →
        (i = 0 → c.Succeeds) ∧ (i ≠ 0 → c.RefusedWith [.duplicateContainerId l.id])) := by
  intro w
  have h : (Custody.ofRun before).Agrees w := Custody.agrees_ofRun before
  have hk : ∀ n, (Holder.lease n, l) ∉ (Custody.ofRun before).holders := fun n hn =>
    hlease (List.mem_of_getElem? ((h.lease_iff n l).1 hn))
  refine ⟨?_, ?_, ?_⟩
  · intro ss hss b hb
    constructor
    · intro b' hb'
      exact (h.run ss).holds_unique hb' hb
    · have hres : Step.reserve l.registry l.id ∉ ss := fun hm => hreserve (hss.subset hm)
      rcases h.origin_run hres ((h.run ss).holds_iff.1 hb) with hx | ⟨c, hc, hl, hown, hok, hbc⟩
      · exact .inl (h.holds_iff.2 hx)
      · exact .inr ⟨c, hc, (Holder.container.inj hbc).symm, hl, hown, hok⟩
  · intro c hc hl
    obtain ⟨ss, s, rest, rfl, hcs⟩ := World.exists_of_mem_completions hc
    have hres : Step.reserve l.registry l.id ∉ ss := fun hm =>
      hreserve (List.mem_append_left _ hm)
    obtain ⟨_, _, -, hw, -⟩ := World.completion?_eq_some_iff.1 hcs
    rw [hw]
    exact (h.run ss).result_of_completion (Custody.lease_not_mem_observeAll hk hres) hcs hl
  · intro hfree hup i c hc
    refine h.first_succeeds (fun x hx => ?_) hreserve hup hc
    cases x with
    | lease n => exact hk n hx
    | container b => exact hfree b (h.holds_iff.2 hx)

/-- Two builders with one identifier, whose host answers every scan after one poll in vain. The
second builder is polled to its end first. -/
def crossedStarts : List Step :=
  [.addEnvironment (.hosted { reply := fun _ _ => .after 1 (.ok []) }), .newBuilder, .newBuilder,
    .call 0 (.setEnvironment 0), .call 0 (.setContainerId "orders"),
    .call 1 (.setEnvironment 0), .call 1 (.setContainerId "orders"),
    .poll 0 ∅, .poll 1 ∅, .poll 1 ∅, .poll 0 ∅]

theorem exclusive_lease_crossedStarts :
    some ⟨0, "orders"⟩ ∉ (({} : World).run []).1.leases ∧
    Step.reserve 0 "orders" ∉ crossedStarts ∧
    (∀ b, ¬ (({} : World).run []).1.Holds b ⟨0, "orders"⟩) ∧
    (∀ ss b rest, crossedStarts = ss ++ .shutdown b :: rest →
      ¬ ((({} : World).run []).1.run ss).1.Holds b ⟨0, "orders"⟩) ∧
    ∃ c c', ((({} : World).run []).1.completions crossedStarts).filter (fun c =>
        c.start.lease? = some ⟨0, "orders"⟩ ∧ c.ownProblems = []) = [c, c'] ∧
      c.builder = 1 ∧ c.Succeeds ∧
      c'.builder = 0 ∧ c'.RefusedWith [.duplicateContainerId "orders"] := by
  have hlease : some ⟨0, "orders"⟩ ∉ (({} : World).run []).1.leases := by simp
  have hreserve : Step.reserve 0 "orders" ∉ crossedStarts := by simp [crossedStarts]
  have hfree : ∀ b, ¬ (({} : World).run []).1.Holds b ⟨0, "orders"⟩ := by
    simp [World.Holds, World.container?, World.stage, Stage.container?]
  have hup : ∀ ss b rest, crossedStarts = ss ++ .shutdown b :: rest →
      ¬ ((({} : World).run []).1.run ss).1.Holds b ⟨0, "orders"⟩ := fun ss b rest e => by
    have hm : Step.shutdown b ∈ crossedStarts := by simp [e]
    simp [crossedStarts] at hm
  have hwin := (exclusive_lease [] crossedStarts ⟨0, "orders"⟩ hlease hreserve).2.2 hfree hup
  refine ⟨hlease, hreserve, hfree, hup, ?_⟩
  generalize hcs : ((({} : World).run []).1.completions crossedStarts).filter (fun c =>
    c.start.lease? = some ⟨0, "orders"⟩ ∧ c.ownProblems = []) = cs at hwin ⊢
  have hb : cs.map Completion.builder = [1, 0] := by
    rw [← hcs]
    rfl
  obtain ⟨c, c', rfl⟩ := List.length_eq_two.1 (by simpa using congrArg List.length hb)
  simp only [List.map_cons, List.map_nil, List.cons.injEq, and_true] at hb
  exact ⟨c, c', rfl, hb.1, (hwin 0 c rfl).1 rfl, hb.2, (hwin 1 c' rfl).2 (by decide)⟩

end BeanContainer
