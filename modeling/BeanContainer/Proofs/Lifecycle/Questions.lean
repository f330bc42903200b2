import BeanContainer.Proofs.Discovery.Timing
import BeanContainer.Proofs.Lifecycle.Story
import BeanContainer.Proofs.Lifecycle.Verdict
/-!
# What hosts are asked

The scans of a start are put to the host of its deployment one after the other, each when the one
before it has been answered, and failures make no difference. `World.questions` says which of them a
step asks. While a start waits, what has been asked and what is left to be asked are all its scans
(`World.AsksInOrder`); so a start that comes to its end has asked all of them, and one that is
abandoned has asked the first of them.
-/

namespace BeanContainer

/-- Whether an entry of the history is a question that is asked on behalf of a builder. -/
def Notice.isQuestion (b : Nat) : Notice → Bool
  | .asked b' .. => b' = b
  | .observed .. => false

/-- Scans, as a start puts them to its host. -/
def Bootstrap.questions (s : Bootstrap) (b : Nat) (scans : List Scan) : List Notice :=
  scans.map (.asked b s.deployment.environment s.loader)

lemma Bootstrap.questions_append (s : Bootstrap) (b : Nat) (scans more : List Scan) :
    s.questions b (scans ++ more) = s.questions b scans ++ s.questions b more :=
  List.map_append

/-- How often the start of a builder is polled before it is abandoned. -/
def pollsOf (b : Nat) : List Step → Nat
  | [] => 0
  | .poll b' _ :: ss => if b' = b then pollsOf b ss + 1 else pollsOf b ss
  | .abandon b' :: ss => if b' = b then 0 else pollsOf b ss
  | _ :: ss => pollsOf b ss

@[simp] lemma pollsOf_poll (b : Nat) (params : Properties) (ss : List Step) :
    pollsOf b (.poll b params :: ss) = pollsOf b ss + 1 := if_pos rfl

@[simp] lemma pollsOf_abandon (b : Nat) (ss : List Step) :
    pollsOf b (.abandon b :: ss) = 0 := if_pos rfl

/-- Other steps do not count. -/
lemma pollsOf_cons {b : Nat} {s : Step} (hpoll : ∀ params, s ≠ .poll b params)
    (habandon : s ≠ .abandon b) (ss : List Step) : pollsOf b (s :: ss) = pollsOf b ss := by
  cases s with
  | poll b' params =>
    apply if_neg
    rintro rfl
    exact hpoll params rfl
  | abandon b' =>
    apply if_neg
    rintro rfl
    exact habandon rfl
  | _ => rfl

namespace World

variable {w : World} {b : Nat}

/-- What has been asked on behalf of a builder, in order. -/
def questionsOf (w : World) (b : Nat) : List Notice :=
  w.history.filter (Notice.isQuestion b)

/-- The questions that a step asks on behalf of a builder. -/
def questions (w : World) (b : Nat) : Step → List Notice
  | .poll b' params =>
    if b' = b then (w.progress? b params).elim [] fun r => r.1.questions b r.2.1 else []
  | _ => []

/-! ### What one step asks -/

lemma questions_of_progress? {params : Properties} {s : Bootstrap} {asked : List Scan}
    {progress : Progress} (h : w.progress? b params = some (s, asked, progress)) :
    w.questions b (.poll b params) = s.questions b asked := by
  simp only [questions, if_true, h, Option.elim_some]

lemma questions_of_none {params : Properties} (h : w.progress? b params = none) :
    w.questions b (.poll b params) = [] := by
  simp only [questions, if_true, h, Option.elim_none]

/-- Nothing is asked but in polls. -/
lemma questions_eq_nil {s : Step} (hpoll : ∀ params, s ≠ .poll b params) :
    w.questions b s = [] := by
  cases s with
  | poll b' params =>
    apply if_neg
    rintro rfl
    exact hpoll params rfl
  | _ => rfl

@[simp] lemma questionsOf_setStage (w : World) (b b' : Nat) (s : Stage) :
    (w.setStage b' s).questionsOf b = w.questionsOf b := rfl

@[simp] lemma questionsOf_release (w : World) (b : Nat) (l : Lease) :
    (w.release l).questionsOf b = w.questionsOf b := rfl

@[simp] lemma questionsOf_notify (w : World) (b b' : Nat) (xs : List Extension) (e : Event) :
    (w.notify b' xs e).questionsOf b = w.questionsOf b := by
  simp [questionsOf, notify, Notice.isQuestion]

@[simp] lemma questionsOf_launch (w : World) (b b' : Nat) (s : Bootstrap) (f : Findings) :
    (w.launch b' s f).questionsOf b = w.questionsOf b := by
  rw [launch, questionsOf_notify, questionsOf_setStage]
  cases s.lease? with
  | none => exact questionsOf_notify _ _ _ _ _
  | some l => exact questionsOf_notify _ _ _ _ _

lemma questionsOf_recordScans_self (w : World) (b : Nat) (s : Bootstrap) (asked : List Scan) :
    (w.recordScans b s.deployment.environment s.loader asked).questionsOf b =
      w.questionsOf b ++ s.questions b asked := by
  simp [questionsOf, recordScans, Bootstrap.questions, Notice.isQuestion]

lemma questionsOf_recordScans_of_ne {b' : Nat} (h : b' ≠ b) (w : World) (env : Nat) (l : Loader)
    (asked : List Scan) : (w.recordScans b' env l asked).questionsOf b = w.questionsOf b := by
  simp [questionsOf, recordScans, Notice.isQuestion, h]

lemma questionsOf_poll_self (w : World) (b : Nat) (params : Properties) :
    (w.poll b params).1.questionsOf b = w.questionsOf b ++ w.questions b (.poll b params) := by
  generalize hr : w.poll b params = r
  cases PollRule.of_poll hr with
  | spent he => rw [questions_of_none (progress?_of_spent? he), List.append_nil]
  | managed hd hm =>
    rw [questions_of_none (progress?_of_managed hd hm params), List.append_nil]
    rfl
  | waits hp => rw [questionsOf_setStage, questionsOf_recordScans_self, questions_of_progress? hp]
  | refused hp =>
    rw [questionsOf_setStage, questionsOf_notify, questionsOf_recordScans_self,
      questions_of_progress? hp]
  | launched hp => rw [questionsOf_launch, questionsOf_recordScans_self, questions_of_progress? hp]

lemma questionsOf_poll_of_ne {b' : Nat} (h : b' ≠ b) (w : World) (params : Properties) :
    (w.poll b' params).1.questionsOf b = w.questionsOf b := by
  generalize hr : w.poll b' params = r
  cases PollRule.of_poll hr with
  | spent => rfl
  | managed => rfl
  | waits => rw [questionsOf_setStage, questionsOf_recordScans_of_ne h]
  | refused => rw [questionsOf_setStage, questionsOf_notify, questionsOf_recordScans_of_ne h]
  | launched => rw [questionsOf_launch, questionsOf_recordScans_of_ne h]

/-- A step adds its questions to what has been asked, and nothing else. -/
theorem questionsOf_step (w : World) (b : Nat) (s : Step) :
    (w.step s).1.questionsOf b = w.questionsOf b ++ w.questions b s := by
  cases s with
  | poll b' params =>
    show (w.poll b' params).1.questionsOf b = _
    by_cases hb : b' = b
    · subst hb
      exact questionsOf_poll_self w b' params
    · rw [questionsOf_poll_of_ne hb, questions, if_neg hb, List.append_nil]
  | fire b' name payload =>
    show (w.fire b' name payload).questionsOf b = _
    rw [fire]
    split <;> simp [questions]
  | shutdown b' =>
    show (w.shutdown b').questionsOf b = _
    cases hc : w.container? b' with
    | none => simp [shutdown_of_none hc, questions]
    | some c =>
      rw [shutdown_of_some hc]
      cases c.lease <;> simp [questions]
  | _ =>
    rw [questionsOf, history_step rfl]
    exact (List.append_nil _).symm

/-- A builder that is used up asks nothing any more. -/
lemma IsSpent.questionsOf_run (h : w.IsSpent b) (steps : List Step) :
    (w.run steps).1.questionsOf b = w.questionsOf b := by
  induction steps generalizing w with
  | nil => rfl
  | cons s ss ih =>
    have hnone : w.questions b s = [] := by
      by_cases hpoll : ∃ params, s = .poll b params
      · obtain ⟨params, rfl⟩ := hpoll
        exact questions_of_none (h.progress?_eq_none params)
      · exact questions_eq_nil (not_exists.1 hpoll)
    rw [run_cons, ih (h.step s), questionsOf_step, hnone, List.append_nil]

/-! ### What a start that waits goes on to ask -/

/-- A start that waits does so until it is polled or abandoned. -/
lemma stage_step_of_bootstrapping {s : Bootstrap} {p : Pending} {st : Step}
    (hs : w.stage b = .bootstrapping s p) (hpoll : ∀ params, st ≠ .poll b params)
    (habandon : st ≠ .abandon b) : (w.step st).1.stage b = .bootstrapping s p := by
  have hb : b < w.stages.length := lt_length_of_stage_ne_failed (by rw [hs]; nofun)
  have hrule := StageRule.of_step w b st
  generalize (w.step st).1.stage b = t, (w.step st).2 = r at hrule ⊢
  cases hrule with
  | kept => exact hs
  | made hnew => exact absurd hnew (Nat.ne_of_lt hb)
  | called hd => cases hd.symm.trans hs
  | abandoned => exact absurd rfl habandon
  | stopped hc => cases hc.symm.trans hs
  | _ => exact absurd rfl (hpoll _)

/-- What a run asks on behalf of a start that waits depends on how often it is polled alone. -/
theorem Pursues.questionsOf_run {s : Bootstrap} {h : Host} {p : Pending} (hw : w.Pursues b s h)
    (hs : w.stage b = .bootstrapping s p) (steps : List Step) :
    (w.run steps).1.questionsOf b =
      w.questionsOf b ++ s.questions b (p.asksWithin h s.loader (pollsOf b steps)) := by
  induction steps generalizing w p with
  | nil =>
    rw [pollsOf, p.asksWithin_zero]
    exact (List.append_nil _).symm
  | cons st ss ih =>
    have hstep := questionsOf_step w b st
    by_cases hpoll : ∃ params, st = .poll b params
    · obtain ⟨params, rfl⟩ := hpoll
      have hp := progress?_of_bootstrapping hs params
      rw [host_of_hosted (hw.waits s p hs).2.1] at hp
      rw [pollsOf_poll, p.asksWithin_succ]
      -- the poll leaves a start that waits again, or a builder that is used up
      generalize p.resume h s.loader = r at hp ⊢
      obtain ⟨asked, progress⟩ := r
      rw [questions_of_progress? hp] at hstep
      rw [Bootstrap.questions_append, ← List.append_assoc, ← hstep]
      cases progress with
      | waiting p' => exact ih (hw.step (.poll b params)) (stage_poll_of_waiting hp)
      | finished f =>
        have hspent : (w.poll b params).1.IsSpent b := isSpent_poll_of_finished hp
        exact (hspent.questionsOf_run ss).trans (List.append_nil _).symm
    · rw [questions_eq_nil (not_exists.1 hpoll), List.append_nil] at hstep
      by_cases habandon : st = .abandon b
      · subst habandon
        have hspent : (w.abandon b).IsSpent b :=
          HasBegun.isSpent_abandon ⟨hw.made, hw.begun⟩
        rw [pollsOf_abandon, p.asksWithin_zero]
        exact ((hspent.questionsOf_run ss).trans hstep).trans (List.append_nil _).symm
      · rw [pollsOf_cons (not_exists.1 hpoll) habandon, ← hstep]
        apply ih (hw.step st)
        exact stage_step_of_bootstrapping hs (not_exists.1 hpoll) habandon

/-! ### All questions of a start -/

/-- What a builder has asked is what its start has not left to be asked: nothing before the start
has begun. -/
structure AsksInOrder (w : World) (b : Nat) : Prop where
  configuring : ∀ d, w.stage b = .configuring d → w.questionsOf b = []
  bootstrapping : ∀ s p, w.stage b = .bootstrapping s p →
    w.questionsOf b ++ s.questions b p.remaining = s.questions b s.scans
  unmade : w.stages.length ≤ b → w.questionsOf b = []

/-- What a poll asks and what it leaves to be asked are what was left. -/
lemma AsksInOrder.append_remaining (h : w.AsksInOrder b) {params : Properties} {s : Bootstrap}
    {asked : List Scan} {progress : Progress}
    (hp : w.progress? b params = some (s, asked, progress)) :
    w.questionsOf b ++ s.questions b asked ++ s.questions b progress.remaining =
      s.questions b s.scans := by
  rw [List.append_assoc, ← Bootstrap.questions_append]
  rcases progress?_cases hp with ⟨d, hd, -, -, hr⟩ | ⟨p, hs, hr⟩
  · have hall := (w.host d.environment).append_remaining_ask s.loader {} s.scans
    rw [← hr] at hall
    rw [h.configuring d hd, hall, List.nil_append]
  · have hall := p.append_remaining_resume (w.host s.deployment.environment) s.loader
    rw [← hr] at hall
    rw [hall]
    exact h.bootstrapping s p hs

lemma AsksInOrder.poll (h : w.AsksInOrder b) (params : Properties) :
    (w.poll b params).1.AsksInOrder b := by
  have hasked := questionsOf_poll_self w b params
  constructor
  · intro d hd
    have hb : b < (w.poll b params).1.stages.length := lt_length_of_configuring hd
    rw [length_stages_poll] at hb
    exact absurd hd ((hasBegun_poll hb params).begun d)
  · intro s p hs
    cases hp : w.progress? b params with
    | none =>
      have hrule := StageRule.of_poll w b b params
      rw [hs] at hrule
      rcases hrule.bootstrapping with hs' | ⟨params', asked, he, hp'⟩
      · cases hp.symm.trans (progress?_of_bootstrapping hs' params)
      · cases he
        cases hp.symm.trans hp'
    | some r =>
      obtain ⟨s', asked, progress⟩ := r
      rw [questions_of_progress? hp] at hasked
      cases progress with
      | waiting p' =>
        obtain ⟨rfl, rfl⟩ := Stage.bootstrapping.inj (hs.symm.trans (stage_poll_of_waiting hp))
        rw [hasked]
        exact h.append_remaining hp
      | finished f => cases hs ▸ (isSpent_poll_of_finished hp).used
  · intro hb
    rw [length_stages_poll] at hb
    have hnone : w.progress? b params = none := by
      by_contra hsome
      obtain ⟨r, hr⟩ := Option.ne_none_iff_exists'.1 hsome
      exact Nat.not_lt_of_le hb (lt_length_of_progress? hr)
    rw [hasked, questions_of_none hnone, List.append_nil]
    exact h.unmade hb

lemma AsksInOrder.step (h : w.AsksInOrder b) (st : Step) : (w.step st).1.AsksInOrder b := by
  by_cases hpoll : ∃ params, st = .poll b params
  · obtain ⟨params, rfl⟩ := hpoll
    exact h.poll params
  · have hsame : (w.step st).1.questionsOf b = w.questionsOf b := by
      rw [questionsOf_step, questions_eq_nil (not_exists.1 hpoll), List.append_nil]
    have hrule := StageRule.of_step w b st
    constructor
    · intro d hd
      rw [hsame]
      cases hc : acceptedCall? b st (w.step st).2 with
      | some c =>
        obtain ⟨d', hd', -⟩ := hrule.exists_of_acceptedCall? hc
        exact h.configuring d' hd'
      | none =>
        rw [hd] at hrule
        rcases hrule.configuring hc with hd' | ⟨hb, -⟩
        · exact h.configuring d hd'
        · exact h.unmade (Nat.le_of_eq hb.symm)
    · intro s p hs
      rw [hs] at hrule
      rw [hsame]
      rcases hrule.bootstrapping with hs' | ⟨params, asked, rfl, -⟩
      · exact h.bootstrapping s p hs'
      · exact absurd ⟨params, rfl⟩ hpoll
    · intro hb
      rw [hsame]
      exact h.unmade (Nat.le_trans (w.length_stages_step st) hb)

lemma AsksInOrder.run (h : w.AsksInOrder b) (steps : List Step) :
    (w.run steps).1.AsksInOrder b := by
  induction steps generalizing w with
  | nil => exact h
  | cons st ss ih => exact ih (h.step st)

/-- Every builder asks in order. -/
theorem asksInOrder_run (steps : List Step) (b : Nat) :
    (({} : World).run steps).1.AsksInOrder b := by
  have h : ({} : World).AsksInOrder b := by
    constructor
    · intro d hd
      rfl
    · intro s p hs
      cases hs
    · intro hb
      rfl
  exact h.run steps

/-- What a builder that has not been polled asks in a run, from its first poll on. -/
theorem AsksInOrder.questionsOf_run {d : Deployment} (h : w.AsksInOrder b)
    (hd : w.stage b = .configuring d) (params : Properties) (rest : List Step) :
    let s := w.startOf d params
    let host := w.host d.environment
    (w.run (.poll b params :: rest)).1.questionsOf b = s.questions b
      (host.askedWithin s.loader (pollsOf b (.poll b params :: rest))
        (if host.managed then [] else s.scans)) := by
  intro s host
  have hasked := questionsOf_poll_self w b params
  rw [h.configuring d hd, List.nil_append] at hasked
  cases hm : host.managed with
  | true =>
    rw [questions_of_none (progress?_of_managed hd hm params)] at hasked
    rw [if_pos rfl, Host.askedWithin_nil]
    exact ((isSpent_poll_of_managed hd hm params).1.questionsOf_run rest).trans hasked
  | false =>
    have hp : w.progress? b params = some (s, host.ask s.loader {} s.scans) :=
      progress?_of_configuring hd hm
    have hpur : (w.poll b params).1.Pursues b s host := pursues_of_configuring params hd hm
    rw [if_neg Bool.false_ne_true, pollsOf_poll, host.askedWithin_succ s.loader {},
      Bootstrap.questions_append]
    generalize host.ask s.loader {} s.scans = r at hp ⊢
    obtain ⟨asked, progress⟩ := r
    rw [questions_of_progress? hp] at hasked
    rw [← hasked]
    cases progress with
    | waiting p => exact hpur.questionsOf_run (stage_poll_of_waiting hp) rest
    | finished f =>
      exact ((isSpent_poll_of_finished hp).questionsOf_run rest).trans (List.append_nil _).symm

/-- A start that comes to its end has asked all its scans, and asks nothing more. -/
theorem AsksInOrder.questionsOf_run_of_ready {w₀ : World} {d : Deployment} {params : Properties}
    {outcome : Except BootstrapError Model} (h₀ : w₀.AsksInOrder b)
    (hd : w₀.stage b = .configuring d)
    (hw : w₀.InProgress b params w) (hr : (w.poll b params).2 = .ready outcome)
    (rest : List Step) :
    let s := w₀.startOf d params
    ((w.poll b params).1.run rest).1.questionsOf b =
      s.questions b (if (w₀.host d.environment).managed then [] else s.scans) := by
  intro s
  cases hm : (w₀.host d.environment).managed with
  | true =>
    obtain rfl := hw.eq_of_managed hd hm
    have hrun := h₀.questionsOf_run hd params rest
    simp only [hm, if_true, Host.askedWithin_nil] at hrun
    exact hrun
  | false =>
    have h : w.AsksInOrder b := by
      rcases hw with rfl | ⟨steps, s', p, rfl, -⟩
      · exact h₀
      · exact h₀.run _
    obtain ⟨asked, hfin⟩ := hw.progress?_of_ready hd hm hr
    have hall := h.append_remaining hfin
    have hasked := questionsOf_poll_self w b params
    rw [questions_of_progress? hfin] at hasked
    rw [(isSpent_poll_of_finished hfin).questionsOf_run rest, hasked]
    exact (List.append_nil _).symm.trans hall

end World

/-- What a start asks the host of its deployment, from its first poll on: nothing if the host is
managed, discovery is disabled or the loader was closed by then; otherwise each package that was
requested, once and recursively if any request says so, and then the bean archives. Whether answers
are failures makes no difference. Each scan is asked when those before it have been answered, so a
start that is abandoned has asked the first of its scans, and one that comes to its end has asked
all of them. -/
theorem questions_of_start {before : List Step} {b : Nat} {d : Deployment} (params : Properties)
    (hd : (({} : World).run before).1.stage b = .configuring d) :
    let w₀ := (({} : World).run before).1
    let calls := acceptedCalls b before (({} : World).run before).2
    let host := w₀.host d.environment
    let loader := Call.loader calls host
    let scans := if host.managed then [] else Call.scans calls (w₀.isClosed loader)
    ((Call.packages calls).map PackageRef.name).Nodup ∧
    (∀ rest,
      let polls := pollsOf b (.poll b params :: rest)
      let asked := host.askedWithin loader polls scans
      (w₀.run (.poll b params :: rest)).1.questionsOf b =
        asked.map (.asked b d.environment loader) ∧
      asked <+: scans ∧
      ∀ earlier scan later, scans = earlier ++ scan :: later →
        (earlier ++ [scan] <+: asked ↔
          ∃ n, host.vainPolls? loader earlier = some n ∧ n < polls)) ∧
    ∀ w outcome, w₀.InProgress b params w → (w.poll b params).2 = .ready outcome →
      ∀ rest, ((w.poll b params).1.run rest).1.questionsOf b =
        scans.map (.asked b d.environment loader) := by
  intro w₀ calls host loader scans
  have h : d.Accumulates calls := World.accumulates_run hd
  have hasks : w₀.AsksInOrder b := World.asksInOrder_run before b
  have hloader : (w₀.startOf d params).loader = loader := World.loader_startOf h params
  have hscans : (if host.managed then [] else (w₀.startOf d params).scans) = scans := by
    rw [World.scans_startOf h params]
  have hquestions : ∀ ss, (w₀.startOf d params).questions b ss =
      ss.map (.asked b d.environment loader) := by
    intro ss
    rw [Bootstrap.questions, hloader]
    rfl
  refine ⟨?_, ?_, ?_⟩
  · rw [Call.packages, List.map_map]
    exact Keyed.nodup_map_firsts _
  · intro rest polls asked
    refine ⟨?_, host.askedWithin_prefix loader polls scans, ?_⟩
    · refine (hasks.questionsOf_run hd params rest).trans ?_
      rw [hquestions, hloader, hscans]
    · intro earlier scan later hsplit
      show earlier ++ [scan] <+: host.askedWithin loader polls scans ↔ _
      rw [hsplit]
      exact host.concat_prefix_askedWithin_iff loader
  · intro w outcome hw hr rest
    refine (hasks.questionsOf_run_of_ready hd hw hr rest).trans ?_
    rw [hquestions, hscans]

/-- A builder that asks for two packages, for the first of them twice. Its host answers the scan of
a package after one poll in vain, with a failure. -/
def failingScans : List Step :=
  [.addEnvironment (.hosted { reply := fun _ scan =>
      match scan with
      | .package _ => .after 1 (.error "out of reach")
      | .archives => .after 0 (.ok []) }),
    .newBuilder, .call 0 (.setEnvironment 0),
    .call 0 (.addPackages false [⟨⟨"app::Order", .system⟩, {}⟩, ⟨⟨"lib::Clock", .system⟩, {}⟩]),
    .call 0 (.addPackages true [⟨⟨"app::Stock", .system⟩, {}⟩])]

theorem questions_of_start_failingScans :
    ∃ d, (({} : World).run failingScans).1.stage 0 = .configuring d ∧
      ((({} : World).run failingScans).1.run
          [.poll 0 ∅, .poll 0 ∅, .abandon 0, .poll 0 ∅]).1.questionsOf 0 =
        [.asked 0 0 .system (.package ⟨"app", true⟩),
          .asked 0 0 .system (.package ⟨"lib", false⟩)] ∧
      ∃ w outcome, (({} : World).run failingScans).1.InProgress 0 ∅ w ∧
        (w.poll 0 ∅).2 = .ready outcome ∧
        (w.poll 0 ∅).1.questionsOf 0 =
          [.asked 0 0 .system (.package ⟨"app", true⟩),
            .asked 0 0 .system (.package ⟨"lib", false⟩), .asked 0 0 .system .archives] := by
  have hd : (({} : World).run failingScans).1.stage 0 = .configuring _ := rfl
  have hw : (({} : World).run failingScans).1.InProgress 0 ∅
      ((({} : World).run failingScans).1.run [.poll 0 ∅, .poll 0 ∅]).1 :=
    .inr ⟨[.poll 0 ∅], _, _, rfl, rfl⟩
  obtain ⟨-, habandoned, hended⟩ := questions_of_start ∅ hd
  refine ⟨_, hd, ?_, _, _, hw, rfl, ?_⟩
  · obtain ⟨hasked, -⟩ := habandoned [.poll 0 ∅, .abandon 0, .poll 0 ∅]
    rw [hasked]
    rfl
  · have hall := hended _ _ hw rfl []
    rw [World.run_nil] at hall
    rw [hall]
    rfl

end BeanContainer
