import BeanContainer.Proofs.Discovery.Plain
import BeanContainer.Proofs.Lifecycle.Loaders
import BeanContainer.Proofs.Lifecycle.Story
/-!
# Runs without markers

Two runs that take the same steps, up to the markers of the classes that are spoken of, keep step
with each other (`World.Alike.run`): at any time the same builders can be configured or wait for the
same answers, with deployments that differ in markers at most. Only how a start ends may depend on
markers, so nothing is said of starts that are over.
-/

namespace BeanContainer

/-! ### Stages, environments and steps -/

namespace Bootstrap

def plain (s : Bootstrap) : Bootstrap := { s with deployment := s.deployment.plain }

lemma plain_model (s : Bootstrap) (b : Nat) (f : Findings) :
    (s.model b f).plain = s.plain.model b f.plain := by
  have hsources : (s.sources b f).map Source.plain = s.plain.sources b f.plain :=
    (s.deployment.sources_plain b f.classes).symm
  rw [model, Deployment.plain_model, hsources]
  rfl

/-- Starts that differ in markers at most, and not in those of enabled classes, have the same
problems if the same identifiers are in use. -/
lemma map_plain_problems_congr {s s' : Bootstrap} (h : s.plain = s'.plain)
    (henabled : ∀ role, s.deployment.enablement.get role = s'.deployment.enablement.get role)
    {f f' : Findings} (hf : f.plain = f'.plain) {registry registry' : Registry}
    (hregistry : ∀ id, registry.inUse id = registry'.inUse id) :
    (s.problems f registry).map Problem.plain = (s'.problems f' registry').map Problem.plain := by
  obtain ⟨hd, -, hl, hc⟩ := Bootstrap.mk.inj h
  have hid : s.deployment.containerId = s'.deployment.containerId :=
    (congrArg (fun s => s.deployment.containerId) h :)
  have hfailures : f.failures = f'.failures := (congrArg Findings.failures hf :)
  have hown : (s.ownProblems f).map Problem.plain = (s'.ownProblems f').map Problem.plain := by
    rw [ownProblems, ownProblems, hl, hc]
    exact Deployment.map_plain_problems_congr hd henabled _ _ hfailures
  have hidentifier : s.identifierProblems registry = s'.identifierProblems registry' := by
    simp only [identifierProblems, hid, ← Registry.inUse_iff, hregistry]
  rw [problems, problems, List.map_append, List.map_append, hown, hidentifier]

end Bootstrap

/-- A stage without markers. Of a start that is over nothing is kept but that it is. -/
def Stage.plain : Stage → Stage
  | .configuring d => .configuring d.plain
  | .bootstrapping s p => .bootstrapping s.plain p.plain
  | .running _ | .stopped | .failed => .failed

/-- Stages that are the same up to markers are of one kind. -/
lemma Stage.plain_eq_cases {t t' : Stage} (h : t.plain = t'.plain) :
    (∃ d d', t = .configuring d ∧ t' = .configuring d' ∧ d.plain = d'.plain) ∨
    (∃ s p s' p', t = .bootstrapping s p ∧ t' = .bootstrapping s' p' ∧ s.plain = s'.plain ∧
      p.plain = p'.plain) ∨
    (t.registryNumber? = none ∧ t'.registryNumber? = none) := by
  cases t with
  | configuring d =>
    cases t' with
    | configuring d' => exact .inl ⟨d, d', rfl, rfl, Stage.configuring.inj h⟩
    | _ => cases h
  | bootstrapping s p =>
    cases t' with
    | bootstrapping s' p' =>
      obtain ⟨hs, hp⟩ := Stage.bootstrapping.inj h
      exact .inr (.inl ⟨s, p, s', p', rfl, rfl, hs, hp⟩)
    | _ => cases h
  | _ =>
    cases t' with
    | configuring d' => cases h
    | bootstrapping s' p' => cases h
    | _ => exact .inr (.inr ⟨rfl, rfl⟩)

namespace Environment

def plain : Environment → Environment
  | .indexed managed index => .indexed managed (index.map IndexedClass.plain)
  | .hosted h => .hosted h.plain

lemma host_plain (e : Environment) : e.plain.host = e.host.plain := by
  cases e with
  | indexed managed index => exact index.host_map_plain managed
  | hosted h => rfl

lemma plain_register (e : IndexedClass) (env : Environment) :
    (env.register e).plain = env.plain.register e.plain := by
  cases env with
  | indexed managed index =>
    exact congrArg (Environment.indexed managed) (index.register_map_plain e).symm
  | hosted h => rfl

end Environment

def Step.plain : Step → Step
  | .addEnvironment e => .addEnvironment e.plain
  | .registerClass environment entry => .registerClass environment entry.plain
  | .makeBean d => .makeBean d.plain
  | .produce b => .produce b.plain
  | .call b c => .call b c.plain
  | s => s

/-- Whether a step leaves loaders, environments and builders alone. -/
def Step.isAside : Step → Bool
  | .openLoader _ | .newExtension _ | .makeBean _ | .produce _ | .addRegistry | .reserve .. |
    .dropLease _ | .fire .. => true
  | _ => false

lemma Step.isAside_plain (s : Step) : s.plain.isAside = s.isAside := by
  cases s <;> rfl

/-! ### Worlds that keep step -/

namespace World

/-- Two worlds with the same loaders closed, in which environments, and builders whose starts are
not over, differ in markers at most. -/
structure Alike (w w' : World) : Prop where
  closed : w.closed = w'.closed
  environments : w.environments.map Environment.plain = w'.environments.map Environment.plain
  builders : w.stages.length = w'.stages.length
  stages : ∀ b, (w.stage b).plain = (w'.stage b).plain

namespace Alike

variable {w w' : World}

protected lemma refl (w : World) : w.Alike w := ⟨rfl, rfl, rfl, fun _ => rfl⟩

lemma isClosed (h : w.Alike w') : w.isClosed = w'.isClosed := by
  funext l
  simp only [World.isClosed, h.closed]

lemma host (h : w.Alike w') (e : Nat) : (w.host e).plain = (w'.host e).plain := by
  have hplain : ∀ v : World, (v.host e).plain =
      (((v.environments.map Environment.plain)[e]?.map Environment.host).getD .empty) := by
    intro v
    rw [List.getElem?_map, World.host]
    cases v.environments[e]? with
    | none => rfl
    | some env => exact env.host_plain.symm
  rw [hplain, hplain, h.environments]

lemma setStage (h : w.Alike w') (b : Nat) {t t' : Stage} (ht : t.plain = t'.plain) :
    (w.setStage b t).Alike (w'.setStage b t') := by
  refine ⟨h.closed, h.environments, ?_, ?_⟩
  · rw [length_stages_setStage, length_stages_setStage, h.builders]
  · intro b'
    by_cases hb : b' = b
    · subst hb
      by_cases hlt : b' < w.stages.length
      · rw [stage_setStage_self hlt, stage_setStage_self (h.builders ▸ hlt), ht]
      · have hle : w.stages.length ≤ b' := Nat.le_of_not_lt hlt
        rw [setStage_of_length_le hle, setStage_of_length_le (h.builders ▸ hle), h.stages]
    · rw [stage_setStage_of_ne hb, stage_setStage_of_ne hb, h.stages]

end Alike

/-! ### Polls -/

/-- What a poll goes on with, without markers. -/
def plainProgress? (w : World) (b : Nat) (params : Properties) :
    Option (Bootstrap × List Scan × Progress) :=
  (w.progress? b params).map fun r => (r.1.plain, r.2.1, r.2.2.plain)

/-- What a poll goes on with, but for markers, can be told from the stage without markers. -/
lemma plainProgress?_eq (w : World) (b : Nat) (params : Properties) :
    w.plainProgress? b params =
      match (w.stage b).plain with
      | .configuring d =>
        let h := (w.host d.environment).plain
        let s := Bootstrap.start d params h w.isClosed
        if h.managed then none else some (s, h.ask s.loader {} s.scans)
      | .bootstrapping s p =>
        some (s, p.resume (w.host s.deployment.environment).plain s.loader)
      | _ => none := by
  cases hs : w.stage b with
  | configuring d =>
    have hask := (w.host d.environment).plain_ask (w.startOf d params).loader {}
      (w.startOf d params).scans
    cases hm : (w.host d.environment).managed with
    | true =>
      rw [plainProgress?, progress?_of_managed hs hm]
      exact (if_pos hm).symm
    | false =>
      rw [plainProgress?, progress?_of_configuring hs hm]
      exact (congrArg (fun r => some ((w.startOf d params).plain, r)) hask.symm).trans
        (if_neg (ne_true_of_eq_false hm)).symm
  | bootstrapping s p =>
    rw [plainProgress?, progress?_of_bootstrapping hs]
    exact congrArg (fun r => some (s.plain, r))
      (p.plain_resume (w.host s.deployment.environment) s.loader).symm
  | _ =>
    rw [plainProgress?, progress?, hs]
    rfl

/-- The stage that a poll leaves a builder in, without markers, given what it goes on with. -/
def plainStageAfter : Option (Bootstrap × List Scan × Progress) → Stage
  | some (s, _, .waiting p) => .bootstrapping s p
  | _ => .failed

lemma plain_stage_poll (w : World) (b : Nat) (params : Properties) :
    ((w.poll b params).1.stage b).plain = plainStageAfter (w.plainProgress? b params) := by
  rw [plainProgress?]
  generalize hr : w.poll b params = r
  cases PollRule.of_poll hr with
  | spent he =>
    rw [progress?_of_spent? he]
    rw [spent?] at he
    cases hs : w.stage b with
    | configuring d => simp [hs] at he
    | bootstrapping s p => simp [hs] at he
    | _ => rfl
  | managed hd hm =>
    rw [progress?_of_managed hd hm, stage_setStage_self (lt_length_of_configuring hd)]
    rfl
  | waits hp =>
    rw [hp, stage_setStage_self (by exact lt_length_of_progress? hp)]
    rfl
  | refused hp =>
    rw [hp, stage_setStage_self (by exact lt_length_of_progress? hp)]
    rfl
  | launched hp =>
    rw [hp, stage_launch_self (by exact lt_length_of_progress? hp)]
    rfl

/-! ### Steps that change nothing -/

lemma step_of_isAside (w : World) {s : Step} (h : s.isAside = true) :
    (w.step s).1.closed = w.closed ∧ (w.step s).1.environments = w.environments ∧
      (w.step s).1.stages = w.stages := by
  cases s with
  | produce b =>
    exact ⟨closed_step (s := .produce b) nofun, environments_produce .., stages_produce ..⟩
  | reserve r id =>
    exact ⟨closed_step (s := .reserve r id) nofun, environments_reserve .., stages_reserve ..⟩
  | dropLease n =>
    exact ⟨closed_step (s := .dropLease n) nofun, environments_dropLease .., stages_dropLease ..⟩
  | fire b name payload =>
    exact ⟨closed_step (s := .fire b name payload) nofun, environments_fire .., stages_fire ..⟩
  | openLoader name => exact ⟨rfl, rfl, rfl⟩
  | newExtension name => exact ⟨rfl, rfl, rfl⟩
  | makeBean d => exact ⟨rfl, rfl, rfl⟩
  | addRegistry => exact ⟨rfl, rfl, rfl⟩
  | _ => cases h

lemma call_of_used {w : World} {b : Nat} (h : (w.stage b).registryNumber? = none) (c : Call) :
    (w.call b c).1 = w := by
  rcases w.call_cases b c with ⟨d, hd, -⟩ | ⟨e, he⟩
  · cases hd ▸ h
  · rw [he]

lemma abandon_of_used {w : World} {b : Nat} (h : (w.stage b).registryNumber? = none) :
    w.abandon b = w := by
  rw [abandon]
  split
  · rename_i hs
    cases hs ▸ h
  · rfl

/-- A container that goes down has started, so its builder is as used up as before. -/
lemma plain_stage_shutdown (w : World) (b b' : Nat) :
    ((w.shutdown b).stage b').plain = (w.stage b').plain := by
  have hrule := StageRule.of_shutdown w b' b
  generalize (w.shutdown b).stage b' = t at hrule ⊢
  cases hrule with
  | kept => rfl
  | stopped hs =>
    rw [hs]
    rfl

namespace Alike

variable {w w' : World}

/-! ### Steps that keep worlds alike -/

lemma plainProgress?_congr (h : w.Alike w') (b : Nat) (params : Properties) :
    w.plainProgress? b params = w'.plainProgress? b params := by
  simp only [plainProgress?_eq, h.stages, h.host, h.isClosed]

lemma poll (h : w.Alike w') (b : Nat) (params : Properties) :
    (w.poll b params).1.Alike (w'.poll b params).1 := by
  have hclosed : ∀ v : World, (v.poll b params).1.closed = v.closed := fun v =>
    v.closed_step (s := .poll b params) nofun
  refine ⟨?_, ?_, ?_, fun b' => ?_⟩
  · rw [hclosed, hclosed, h.closed]
  · rw [environments_poll, environments_poll, h.environments]
  · rw [length_stages_poll, length_stages_poll, h.builders]
  · by_cases hb : b' = b
    · subst hb
      rw [plain_stage_poll, plain_stage_poll, h.plainProgress?_congr]
    · rw [stage_poll_of_ne hb, stage_poll_of_ne hb, h.stages]

lemma call (h : w.Alike w') (b : Nat) {c c' : Call} (hc : c.plain = c'.plain) :
    (w.call b c).1.Alike (w'.call b c').1 := by
  have hfault : c.fault? = c'.fault? := by rw [← c.fault?_plain, hc, c'.fault?_plain]
  rcases Stage.plain_eq_cases (h.stages b) with
    ⟨d, d', hd, hd', hplain⟩ | ⟨s, p, s', p', hs, hs', -⟩ | ⟨hs, hs'⟩
  · cases hf : c.fault? with
    | some e =>
      rw [call_of_fault? hd hf, call_of_fault? hd' (hfault ▸ hf)]
      exact h
    | none =>
      rw [call_of_fault?_eq_none hd hf, call_of_fault?_eq_none hd' (hfault ▸ hf)]
      refine h.setStage b (congrArg Stage.configuring ?_)
      rw [Deployment.plain_apply, hplain, hc, Deployment.plain_apply]
  · obtain ⟨e, he⟩ := exists_call_eq_of_used (w := w) (b := b) (by simp [hs])
    obtain ⟨e', he'⟩ := exists_call_eq_of_used (w := w') (b := b) (by simp [hs'])
    rw [he, he']
    exact h
  · rw [call_of_used hs, call_of_used hs']
    exact h

lemma abandon (h : w.Alike w') (b : Nat) : (w.abandon b).Alike (w'.abandon b) := by
  rcases Stage.plain_eq_cases (h.stages b) with
    ⟨d, d', hd, hd', -⟩ | ⟨s, p, s', p', hs, hs', -⟩ | ⟨hs, hs'⟩
  · rw [World.abandon, World.abandon, hd, hd']
    exact h
  · rw [World.abandon, World.abandon, hs, hs']
    exact h.setStage b rfl
  · rw [abandon_of_used hs, abandon_of_used hs']
    exact h

lemma shutdown (h : w.Alike w') (b : Nat) : (w.shutdown b).Alike (w'.shutdown b) := by
  have hclosed : ∀ v : World, (v.shutdown b).closed = v.closed := fun v =>
    v.closed_step (s := .shutdown b) nofun
  refine ⟨?_, ?_, ?_, fun b' => ?_⟩
  · rw [hclosed, hclosed, h.closed]
  · rw [environments_shutdown, environments_shutdown, h.environments]
  · rw [length_stages_shutdown, length_stages_shutdown, h.builders]
  · rw [plain_stage_shutdown, plain_stage_shutdown, h.stages]

lemma newBuilder (h : w.Alike w') : w.newBuilder.1.Alike w'.newBuilder.1 := by
  have hlength : w.environments.length = w'.environments.length := by
    rw [← List.length_map Environment.plain, h.environments, List.length_map]
  refine ⟨h.closed, ?_, ?_, fun b => ?_⟩
  · simp only [World.newBuilder, addEnvironment, List.map_append, h.environments]
  · simp only [World.newBuilder, addEnvironment, List.length_append, h.builders]
    rfl
  · by_cases hb : b = w.stages.length
    · rw [hb, stage_newBuilder_self, h.builders, stage_newBuilder_self, hlength]
    · rw [stage_newBuilder_of_ne hb, stage_newBuilder_of_ne (h.builders ▸ hb), h.stages]

lemma addEnvironment (h : w.Alike w') {e e' : Environment} (he : e.plain = e'.plain) :
    (w.addEnvironment e).1.Alike (w'.addEnvironment e').1 := by
  refine ⟨h.closed, ?_, h.builders, h.stages⟩
  simp only [World.addEnvironment, List.map_append, List.map_singleton, h.environments, he]

lemma registerClass (h : w.Alike w') (e : Nat) {entry entry' : IndexedClass}
    (hentry : entry.plain = entry'.plain) :
    (w.registerClass e entry).Alike (w'.registerClass e entry') := by
  have hmap : ∀ (v : World) (x : IndexedClass),
      (v.registerClass e x).environments.map Environment.plain =
        (v.environments.map Environment.plain).modify e (Environment.register x.plain) := by
    intro v x
    apply List.ext_getElem?
    intro i
    rw [World.registerClass, List.getElem?_map, List.getElem?_modify, List.getElem?_modify,
      List.getElem?_map]
    cases v.environments[i]? with
    | none => rfl
    | some env =>
      by_cases hi : e = i
      · simp [hi, env.plain_register]
      · simp [hi]
  refine ⟨h.closed, ?_, h.builders, h.stages⟩
  rw [hmap, hmap, h.environments, hentry]

lemma of_isAside (h : w.Alike w') {s s' : Step} (hs : s.isAside = true)
    (hs' : s'.isAside = true) : (w.step s).1.Alike (w'.step s').1 := by
  obtain ⟨hc, he, hst⟩ := w.step_of_isAside hs
  obtain ⟨hc', he', hst'⟩ := w'.step_of_isAside hs'
  refine ⟨?_, ?_, ?_, fun b => ?_⟩
  · rw [hc, hc', h.closed]
  · rw [he, he', h.environments]
  · rw [hst, hst', h.builders]
  · rw [stage, stage, hst, hst']
    exact h.stages b

/-- Worlds that are alike remain so, if the same is done in both up to markers. -/
theorem step (h : w.Alike w') {s s' : Step} (hs : s.plain = s'.plain) :
    (w.step s).1.Alike (w'.step s').1 := by
  by_cases ha : s.isAside = true
  · exact h.of_isAside ha (by rw [← s'.isAside_plain, ← hs, s.isAside_plain, ha])
  cases s with
  | closeLoader l =>
    cases s' with
    | closeLoader l' =>
      obtain rfl := Step.closeLoader.inj hs
      exact ⟨congrArg (l :: ·) h.closed, h.environments, h.builders, h.stages⟩
    | _ => cases hs
  | addEnvironment e =>
    cases s' with
    | addEnvironment e' => exact h.addEnvironment (Step.addEnvironment.inj hs)
    | _ => cases hs
  | registerClass e entry =>
    cases s' with
    | registerClass e' entry' =>
      obtain ⟨rfl, hentry⟩ := Step.registerClass.inj hs
      exact h.registerClass e hentry
    | _ => cases hs
  | newBuilder =>
    cases s' with
    | newBuilder => exact h.newBuilder
    | _ => cases hs
  | call b c =>
    cases s' with
    | call b' c' =>
      obtain ⟨rfl, hc⟩ := Step.call.inj hs
      exact h.call b hc
    | _ => cases hs
  | poll b params =>
    cases s' with
    | poll b' params' =>
      obtain ⟨rfl, rfl⟩ := Step.poll.inj hs
      exact h.poll b params
    | _ => cases hs
  | abandon b =>
    cases s' with
    | abandon b' =>
      obtain rfl := Step.abandon.inj hs
      exact h.abandon b
    | _ => cases hs
  | shutdown b =>
    cases s' with
    | shutdown b' =>
      obtain rfl := Step.shutdown.inj hs
      exact h.shutdown b
    | _ => cases hs
  | _ => exact absurd rfl ha

theorem run (h : w.Alike w') {ss ss' : List Step} (hss : ss.map Step.plain = ss'.map Step.plain) :
    (w.run ss).1.Alike (w'.run ss').1 := by
  induction ss generalizing w w' ss' with
  | nil =>
    obtain rfl := List.map_eq_nil_iff.1 hss.symm
    exact h
  | cons s ss ih =>
    cases ss' with
    | nil => cases hss
    | cons s' ss' =>
      obtain ⟨hs, hss⟩ := List.cons.inj hss
      exact ih (h.step hs) hss

end Alike

end World

end BeanContainer
