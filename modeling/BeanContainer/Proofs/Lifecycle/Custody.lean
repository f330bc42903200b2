import BeanContainer.Proofs.Deployment.Accumulation
import BeanContainer.Proofs.Lifecycle.Polling
/-!
# Who holds an identifier

A `Custody` is kept by somebody who sees the steps of a run and what they yield, and nothing of the
world behind them: a reservation that yields a lease and a poll that yields a container with an
identifier add a holder, dropping the lease and shutting the container down take it away.

`Custody.Agrees` ties this account to the world. Every step keeps it (`Custody.Agrees.step`), so
along every run the registries hold exactly what the account says, each identifier for one holder.
-/

namespace BeanContainer

/-- Whoever can hold an identifier. -/
inductive Holder where
  | lease (number : Nat)
  | container (builder : Nat)
  deriving DecidableEq

/-- An account of who holds what. -/
structure Custody where
  /-- The registry that each builder was given last. -/
  assigned : Nat → Nat := fun _ => World.globalRegistry
  /-- The live holders and what they hold. -/
  holders : List (Holder × Lease) := []

namespace Custody

def take (k : Custody) (h : Holder) (l : Lease) : Custody :=
  { k with holders := (h, l) :: k.holders }

/-- Somebody lets go of what they hold, if they hold anything. -/
def drop (k : Custody) (h : Holder) : Custody :=
  { k with holders := k.holders.filter fun e => e.1 ≠ h }

def assign (k : Custody) (b r : Nat) : Custody :=
  { k with assigned := fun b' => if b' = b then r else k.assigned b' }

/-- The account after a step that yields a result. -/
def observe (k : Custody) : Step → StepResult → Custody
  | .reserve r id, .lease (some n) => k.take (.lease n) ⟨r, id⟩
  | .dropLease n, _ => k.drop (.lease n)
  | .call b (.setRegistry r), .called (.ok _) => k.assign b r
  | .poll b _, .polled (.ready (.ok model)) =>
    match model.containerId with
    | some id => k.take (.container b) ⟨k.assigned b, id⟩
    | none => k
  | .shutdown b, _ => k.drop (.container b)
  | _, _ => k

def observeAll (k : Custody) (steps : List Step) (results : List StepResult) : Custody :=
  (steps.zip results).foldl (fun k e => k.observe e.1 e.2) k

/-- The account of a run that starts with nothing. -/
def ofRun (steps : List Step) : Custody :=
  observeAll {} steps (({} : World).run steps).2

/-- What is held in a registry, one entry for each holder. -/
def heldIn (k : Custody) (r : Nat) : List (Holder × Lease) :=
  k.holders.filter fun e => e.2.registry = r

@[simp] lemma observeAll_nil (k : Custody) : k.observeAll [] [] = k := rfl

@[simp] lemma observeAll_cons (k : Custody) (s : Step) (ss : List Step) (r : StepResult)
    (rs : List StepResult) :
    k.observeAll (s :: ss) (r :: rs) = (k.observe s r).observeAll ss rs := rfl

lemma mem_take {k : Custody} {h h' : Holder} {l l' : Lease} :
    (h', l') ∈ (k.take h l).holders ↔ h' = h ∧ l' = l ∨ (h', l') ∈ k.holders := by
  simp [take]

lemma mem_drop {k : Custody} {h h' : Holder} {l : Lease} :
    (h', l) ∈ (k.drop h).holders ↔ (h', l) ∈ k.holders ∧ h' ≠ h := by
  simp [drop]

lemma drop_of_not_holder {k : Custody} {h : Holder} (hk : ∀ l, (h, l) ∉ k.holders) :
    k.drop h = k := by
  have hf : k.holders.filter (fun e => e.1 ≠ h) = k.holders := by
    refine List.filter_eq_self.2 fun e he => ?_
    simp only [ne_eq, decide_not, Bool.not_eq_true', decide_eq_false_iff_not]
    rintro rfl
    exact hk e.2 he
  simp only [drop, hf]

/-- A container goes up that has an identifier. -/
lemma observe_of_containerId {k : Custody} {b : Nat} {params : Properties} {model : Model}
    {id : String} (h : model.containerId = some id) :
    k.observe (.poll b params) (.polled (.ready (.ok model))) =
      k.take (.container b) ⟨k.assigned b, id⟩ := by
  simp only [observe, h]

/-! ### Registries -/

/-- The registries hold exactly what the account says, and nothing has two holders. -/
structure Covers (k : Custody) (registries : Nat → Registry) : Prop where
  held_iff : ∀ r id, id ∈ (registries r).held ↔ ∃ h, (h, ⟨r, id⟩) ∈ k.holders
  nodup : (k.holders.map Prod.snd).Nodup

lemma Covers.holder_unique {k : Custody} {R : Nat → Registry} (hk : k.Covers R) {h h' : Holder}
    {l : Lease} (hl : (h, l) ∈ k.holders) (hl' : (h', l) ∈ k.holders) : h = h' :=
  congrArg Prod.fst (List.inj_on_of_nodup_map hk.nodup hl hl' rfl)

lemma Covers.take {k : Custody} {R R' : Nat → Registry} (hk : k.Covers R) {l : Lease}
    (hfree : l.id ∉ (R l.registry).held)
    (hR : ∀ r id, id ∈ (R' r).held ↔ id ∈ (R r).held ∨ l = ⟨r, id⟩) (h : Holder) :
    (k.take h l).Covers R' where
  held_iff r id := by
    rw [hR, hk.held_iff]
    constructor
    · rintro (⟨h', hh⟩ | rfl)
      · exact ⟨h', mem_take.2 (.inr hh)⟩
      · exact ⟨h, mem_take.2 (.inl ⟨rfl, rfl⟩)⟩
    · rintro ⟨h', hh⟩
      rcases mem_take.1 hh with ⟨-, rfl⟩ | hh
      · exact .inr rfl
      · exact .inl ⟨h', hh⟩
  nodup := by
    rw [Custody.take, List.map_cons, List.nodup_cons]
    refine ⟨fun hm => hfree ?_, hk.nodup⟩
    obtain ⟨⟨h', l'⟩, hh, rfl⟩ := List.mem_map.1 hm
    exact (hk.held_iff _ _).2 ⟨h', hh⟩

lemma Covers.drop {k : Custody} {R R' : Nat → Registry} (hk : k.Covers R) {h : Holder}
    {l : Lease} (hl : (h, l) ∈ k.holders) (honly : ∀ l', (h, l') ∈ k.holders → l' = l)
    (hR : ∀ r id, id ∈ (R' r).held ↔ id ∈ (R r).held ∧ l ≠ ⟨r, id⟩) : (k.drop h).Covers R' where
  held_iff r id := by
    rw [hR, hk.held_iff]
    constructor
    · rintro ⟨⟨h', hh⟩, hne⟩
      refine ⟨h', mem_drop.2 ⟨hh, ?_⟩⟩
      rintro rfl
      exact hne (honly _ hh).symm
    · rintro ⟨h', hh⟩
      obtain ⟨hh, hne⟩ := mem_drop.1 hh
      refine ⟨⟨h', hh⟩, ?_⟩
      rintro rfl
      exact hne (hk.holder_unique hh hl)
  nodup := (List.Sublist.map _ List.filter_sublist).nodup hk.nodup

lemma mem_heldIn {k : Custody} {r : Nat} {h : Holder} {l : Lease} :
    (h, l) ∈ k.heldIn r ↔ (h, l) ∈ k.holders ∧ l.registry = r := by
  simp [heldIn]

/-- A registry holds as many identifiers as there are holders in it. -/
lemma Covers.size_eq {k : Custody} {R : Nat → Registry} (hk : k.Covers R) (r : Nat) :
    (R r).size = (k.heldIn r).length := by
  have hnodup : ((k.heldIn r).map fun e => e.2.id).Nodup := by
    refine List.Nodup.map_on ?_ (List.Nodup.filter _ (List.Nodup.of_map _ hk.nodup))
    rintro ⟨h, l⟩ hm ⟨h', l'⟩ hm' hid
    obtain ⟨hl, hr⟩ := mem_heldIn.1 hm
    obtain ⟨hl', hr'⟩ := mem_heldIn.1 hm'
    obtain rfl : l = l' := by
      cases l
      cases l'
      simp_all
    rw [hk.holder_unique hl hl']
  have hperm : (R r).held.Perm ((k.heldIn r).map fun e => e.2.id) := by
    refine (List.perm_ext_iff_of_nodup (R r).nodup hnodup).2 fun id => ?_
    rw [hk.held_iff, List.mem_map]
    constructor
    · rintro ⟨h, hh⟩
      exact ⟨_, mem_heldIn.2 ⟨hh, rfl⟩, rfl⟩
    · rintro ⟨⟨h, l⟩, hm, rfl⟩
      obtain ⟨hl, rfl⟩ := mem_heldIn.1 hm
      exact ⟨h, hl⟩
  simpa [Registry.size] using hperm.length_eq

/-! ### The account and the world -/

/-- What the account says of a builder is true of its stage. -/
structure StageAgrees (k : Custody) (b : Nat) (s : Stage) : Prop where
  holder_iff : ∀ l, (.container b, l) ∈ k.holders ↔ s.lease? = some l
  assigned : ∀ r, s.registryNumber? = some r → k.assigned b = r
  lease_eq : ∀ c, s.container? = some c → c.lease = c.model.containerId.map (⟨k.assigned b, ·⟩)

/-- What the account says is true of the world. -/
structure Agrees (k : Custody) (w : World) : Prop where
  covers : k.Covers w.registries
  lease_iff : ∀ n l, (.lease n, l) ∈ k.holders ↔ w.leases[n]? = some (some l)
  stage : ∀ b, k.StageAgrees b (w.stage b)
  unassigned : ∀ b, w.stages.length ≤ b → k.assigned b = World.globalRegistry

lemma StageAgrees.not_holder {k : Custody} {b : Nat} {s : Stage} (h : k.StageAgrees b s)
    (hs : s.container? = none) (l : Lease) : (.container b, l) ∉ k.holders := by
  rw [h.holder_iff]
  simp [Stage.lease?, hs]

/-- A stage without a container agrees if nothing is held and the registry is the one assigned. -/
lemma StageAgrees.of_container?_eq_none {k : Custody} {b : Nat} {s : Stage}
    (hk : ∀ l, (.container b, l) ∉ k.holders) (hs : s.container? = none)
    (hr : ∀ r, s.registryNumber? = some r → k.assigned b = r) : k.StageAgrees b s where
  holder_iff l := by simp [Stage.lease?, hs, hk l]
  assigned := hr
  lease_eq c hc := by simp [hs] at hc

/-- Accounts that say the same of a builder agree with the same stages. -/
lemma StageAgrees.congr {k k' : Custody} {b : Nat} {s : Stage} (h : k.StageAgrees b s)
    (hh : ∀ l, (.container b, l) ∈ k'.holders ↔ (.container b, l) ∈ k.holders)
    (ha : k'.assigned b = k.assigned b) : k'.StageAgrees b s where
  holder_iff l := (hh l).trans (h.holder_iff l)
  assigned r hr := ha.trans (h.assigned r hr)
  lease_eq c hc := by rw [ha]; exact h.lease_eq c hc

/-- A change that leaves registries and leases alone is judged by the stages alone. -/
lemma Agrees.of_stage {k : Custody} {w w' : World} (h : k.Agrees w)
    (hr : w'.registries = w.registries) (hl : w'.leases = w.leases)
    (hn : w'.stages.length = w.stages.length)
    (hs : ∀ b, w'.stage b = w.stage b ∨ k.StageAgrees b (w'.stage b)) : k.Agrees w' where
  covers := by rw [hr]; exact h.covers
  lease_iff n l := by rw [hl]; exact h.lease_iff n l
  stage b := (hs b).elim (fun e => by rw [e]; exact h.stage b) id
  unassigned b hb := h.unassigned b (hn ▸ hb)

/-- A change that leaves registries, leases and stages alone changes nothing here. -/
lemma Agrees.of_same {k : Custody} {w w' : World} (h : k.Agrees w)
    (hr : w'.registries = w.registries) (hl : w'.leases = w.leases)
    (hs : w'.stages = w.stages) : k.Agrees w' :=
  h.of_stage hr hl (by rw [hs]) fun b => .inl (by simp only [World.stage, hs])

/-- A builder without a container may enter another stage without one that keeps its registry. -/
lemma Agrees.setStage {k : Custody} {w : World} (h : k.Agrees w) {b : Nat} {s : Stage}
    (hw : (w.stage b).container? = none) (hs : s.container? = none)
    (hr : ∀ r, s.registryNumber? = some r → (w.stage b).registryNumber? = some r) :
    k.Agrees (w.setStage b s) := by
  refine h.of_stage rfl rfl (by simp) fun b' => ?_
  by_cases hb : b' = b
  · subst hb
    by_cases hlt : b' < w.stages.length
    · rw [World.stage_setStage_self hlt]
      exact .inr (.of_container?_eq_none ((h.stage b').not_holder hw) hs
        fun r e => (h.stage b').assigned r (hr r e))
    · rw [World.setStage_of_length_le (Nat.le_of_not_lt hlt)]
      exact .inl rfl
  · exact .inl (World.stage_setStage_of_ne hb s)

/-! ### Every step keeps the account true -/

lemma Agrees.reserve {k : Custody} {w : World} (h : k.Agrees w) (r : Nat) (id : String) :
    (k.observe (.reserve r id) (.lease (w.reserve r id).2)).Agrees (w.reserve r id).1 := by
  rw [World.reserve]
  cases hr : (w.registries r).reserve? id with
  | none => exact h
  | some content =>
    obtain ⟨hfree, hheld⟩ := Registry.held_of_reserve? hr
    refine ⟨h.covers.take hfree ?_ _, ?_, ?_, h.unassigned⟩
    · intro r' id'
      by_cases hn : r' = r
      · subst hn
        simp [hheld, or_comm, eq_comm]
      · simp [hn, Ne.symm hn]
    · intro n l
      simp only [observe, mem_take, Holder.lease.injEq, h.lease_iff]
      rcases Nat.lt_trichotomy n w.leases.length with hn | rfl | hn
      · simp [List.getElem?_append_left hn, Nat.ne_of_lt hn]
      · simp [eq_comm]
      · rw [List.getElem?_eq_none (Nat.le_of_lt hn),
          List.getElem?_eq_none (by simpa using Nat.succ_le_of_lt hn)]
        simp [Nat.ne_of_gt hn]
    · intro b
      exact (h.stage b).congr (fun l => by simp [observe, mem_take]) rfl

lemma Agrees.dropLease {k : Custody} {w : World} (h : k.Agrees w) (n : Nat) :
    (k.drop (.lease n)).Agrees (w.dropLease n) := by
  rw [World.dropLease]
  cases hn : w.leases[n]?.join with
  | none =>
    have hk : ∀ l, (Holder.lease n, l) ∉ k.holders := fun l hl => by
      simp [(h.lease_iff n l).1 hl] at hn
    rw [drop_of_not_holder hk]
    exact h
  | some l =>
    have hn' : w.leases[n]? = some (some l) := Option.join_eq_some_iff.1 hn
    have hlt : n < w.leases.length := (List.getElem?_eq_some_iff.1 hn').1
    have honly : ∀ l', (Holder.lease n, l') ∈ k.holders → l' = l := fun l' hl' => by
      simpa [hn', eq_comm] using (h.lease_iff n l').1 hl'
    refine ⟨h.covers.drop ((h.lease_iff n l).2 hn') honly ?_, ?_, ?_, h.unassigned⟩
    · intro r id
      exact World.mem_held_release
    · intro n' l'
      rw [mem_drop, h.lease_iff]
      by_cases hnn : n' = n
      · subst hnn
        simp [hlt]
      · simp [hnn, List.getElem?_set_ne (Ne.symm hnn)]
    · intro b
      exact (h.stage b).congr (fun l => by simp [mem_drop]) rfl

lemma Agrees.newBuilder {k : Custody} {w : World} (h : k.Agrees w) :
    k.Agrees w.newBuilder.1 where
  covers := h.covers
  lease_iff := h.lease_iff
  stage b := by
    rcases Nat.lt_trichotomy b w.stages.length with hb | rfl | hb
    · rw [World.stage_newBuilder_of_ne (Nat.ne_of_lt hb)]
      exact h.stage b
    · rw [World.stage_newBuilder_self]
      refine .of_container?_eq_none ((h.stage _).not_holder ?_) rfl fun r hr => ?_
      · simp [World.stage, Stage.container?]
      · rw [h.unassigned _ (Nat.le_refl _)]
        simpa [Stage.registryNumber?] using hr
    · rw [World.stage_newBuilder_of_ne (Nat.ne_of_gt hb)]
      exact h.stage b
  unassigned b hb := by
    refine h.unassigned b (Nat.le_of_succ_le ?_)
    simpa [World.newBuilder, World.addEnvironment] using hb

/-- A call is made. Only one call concerns the account: that which assigns a registry. -/
lemma Agrees.call {k : Custody} {w : World} (h : k.Agrees w) (b : Nat) (c : Call) :
    (k.observe (.call b c) (.called (w.call b c).2)).Agrees (w.call b c).1 := by
  rcases World.call_cases w b c with ⟨d, hd, -, hc⟩ | ⟨e, hc⟩
  · rw [hc]
    have hb : b < w.stages.length := World.lt_length_of_configuring hd
    have hk : ∀ l, (Holder.container b, l) ∉ k.holders := (h.stage b).not_holder (by rw [hd]; rfl)
    cases hr : c.registryNumber? with
    | some r =>
      obtain rfl := Call.registryNumber?_eq_some_iff.1 hr
      change (k.assign b r).Agrees _
      refine ⟨⟨h.covers.held_iff, h.covers.nodup⟩, h.lease_iff, ?_, ?_⟩
      · intro b'
        by_cases hbb : b' = b
        · subst hbb
          rw [World.stage_setStage_self hb]
          refine .of_container?_eq_none hk rfl fun r' hr' => ?_
          simpa [assign, Stage.registryNumber?, Deployment.apply] using hr'
        · rw [World.stage_setStage_of_ne hbb]
          exact (h.stage b').congr (fun _ => Iff.rfl) (by simp [assign, hbb])
      · intro b' hb'
        rw [World.length_stages_setStage] at hb'
        have hbb : b' ≠ b := Nat.ne_of_gt (Nat.lt_of_lt_of_le hb hb')
        simpa [assign, hbb] using h.unassigned b' hb'
    | none =>
      have hobs : k.observe (.call b c) (.called (.ok ())) = k := by
        cases c <;> simp_all [observe]
      rw [hobs]
      refine h.setStage (by rw [hd]; rfl) rfl fun r e => ?_
      rw [hd]
      rwa [Stage.registryNumber?, d.registry_apply, hr] at e
  · rw [hc]
    have hobs : k.observe (.call b c) (.called (.error e)) = k := by
      cases c <;> rfl
    rw [hobs]
    exact h

/-- A container goes up: it holds its identifier in the registry of its builder. -/
lemma Agrees.launch {k : Custody} {w : World} (h : k.Agrees w) {b : Nat} {s : Bootstrap}
    {f : Findings} {params : Properties} (hb : b < w.stages.length)
    (hc : (w.stage b).container? = none)
    (hreg : (w.stage b).registryNumber? = some s.deployment.registry)
    (hnil : s.problems f (w.registries s.deployment.registry) = []) :
    (k.observe (.poll b params) (.polled (.ready (.ok (s.model b f))))).Agrees
      (w.launch b s f) := by
  have ha : k.assigned b = s.deployment.registry := (h.stage b).assigned _ hreg
  have hk := (h.stage b).not_holder hc
  have hobs : k.observe (.poll b params) (.polled (.ready (.ok (s.model b f)))) =
      s.lease?.elim k (k.take (.container b)) := by
    have hs : (s.model b f).containerId = s.deployment.containerId := rfl
    cases hid : s.deployment.containerId with
    | none => simp only [observe, hs, Bootstrap.lease?, hid, Option.map_none, Option.elim_none]
    | some id =>
      rw [observe_of_containerId (hs.trans hid), Bootstrap.lease?, hid, ha, Option.map_some,
        Option.elim_some]
  rw [hobs]
  have hmem : ∀ x l, (x, l) ∈ (s.lease?.elim k (k.take (.container b))).holders ↔
      x = .container b ∧ s.lease? = some l ∨ (x, l) ∈ k.holders := fun x l => by
    cases hl : s.lease? <;> simp [mem_take, eq_comm]
  have hassigned : (s.lease?.elim k (k.take (.container b))).assigned = k.assigned := by
    cases s.lease? <;> rfl
  refine ⟨?_, ?_, ?_, ?_⟩
  · cases hl : s.lease? with
    | none =>
      refine ⟨fun r id => ?_, h.covers.nodup⟩
      rw [World.mem_held_launch, hl]
      simpa using h.covers.held_iff r id
    | some l =>
      refine h.covers.take (s.free_of_problems_eq_nil hnil hl) (fun r id => ?_) _
      rw [World.mem_held_launch, hl, Option.some.injEq]
  · intro n l
    rw [hmem, World.leases_launch]
    simpa using h.lease_iff n l
  · intro b'
    by_cases hbb : b' = b
    · subst hbb
      rw [World.stage_launch_self hb]
      refine ⟨fun l => ?_, by simp [Stage.registryNumber?], fun c hcc => ?_⟩
      · rw [hmem]
        simp [hk, Stage.lease?, Stage.container?]
      · obtain rfl : _ = c := Option.some.inj hcc
        rw [hassigned, ha]
        rfl
    · rw [World.stage_launch_of_ne hbb]
      exact (h.stage b').congr (fun l => by simp [hmem, hbb]) (by rw [hassigned])
  · intro b' hb'
    rw [hassigned]
    exact h.unassigned b' (by simpa using hb')

/-- A builder is polled. What a container holds is its identifier in the registry of its builder. -/
lemma Agrees.poll {k : Custody} {w : World} (h : k.Agrees w) (b : Nat) (params : Properties) :
    (k.observe (.poll b params) (.polled (w.poll b params).2)).Agrees (w.poll b params).1 := by
  generalize hr : w.poll b params = r
  cases World.PollRule.of_poll hr with
  | spent => exact h
  | managed hd =>
    change k.Agrees (World.setStage _ b _)
    exact h.setStage (by rw [hd]; rfl) rfl (by simp [Stage.registryNumber?])
  | @waits s asked pending hp =>
    obtain ⟨hc, hreg⟩ := World.stage_of_progress? hp
    have hv : k.Agrees (w.recordScans b s.deployment.environment s.loader asked) :=
      h.of_same rfl rfl rfl
    change k.Agrees (World.setStage _ b (.bootstrapping s pending))
    exact hv.setStage hc rfl fun r e => hreg.trans e
  | @refused s asked f hp =>
    have hv : k.Agrees ((w.recordScans b s.deployment.environment s.loader asked).notify b
        s.deployment.extensions (.afterBeanDiscovery (s.sources b f))) := h.of_same rfl rfl rfl
    change k.Agrees (World.setStage _ b .failed)
    exact hv.setStage (World.stage_of_progress? hp).1 rfl (by simp [Stage.registryNumber?])
  | @launched s asked f hp hnil =>
    obtain ⟨hc, hreg⟩ := World.stage_of_progress? hp
    have hv : k.Agrees (w.recordScans b s.deployment.environment s.loader asked) :=
      h.of_same rfl rfl rfl
    exact hv.launch (World.lt_length_of_progress? hp) hc hreg hnil

lemma Agrees.shutdown {k : Custody} {w : World} (h : k.Agrees w) (b : Nat) :
    (k.drop (.container b)).Agrees (w.shutdown b) := by
  cases hc : w.container? b with
  | none =>
    rw [drop_of_not_holder ((h.stage b).not_holder hc), World.shutdown_of_none hc]
    exact h
  | some c =>
    have hc' : (w.stage b).container? = some c := hc
    have honly : ∀ l, (Holder.container b, l) ∈ k.holders ↔ c.lease = some l := fun l => by
      rw [(h.stage b).holder_iff, Stage.lease?, hc', Option.bind_some]
    have hstage : ∀ b', (w.shutdown b).stage b' = (w.setStage b .stopped).stage b' := fun b' => by
      simp only [World.stage, World.stages_shutdown hc]
    refine ⟨?_, ?_, ?_, ?_⟩
    · cases hl : c.lease with
      | none =>
        rw [drop_of_not_holder fun l => by simp [honly, hl]]
        refine ⟨fun r id => ?_, h.covers.nodup⟩
        rw [World.mem_held_shutdown hc, hl]
        simpa using h.covers.held_iff r id
      | some l =>
        refine h.covers.drop ((honly l).2 hl) (fun l' hl' => ?_) fun r id => ?_
        · simpa [hl, eq_comm] using (honly l').1 hl'
        · simpa [hl] using World.mem_held_shutdown hc
    · intro n l
      rw [mem_drop, World.leases_shutdown]
      simpa using h.lease_iff n l
    · intro b'
      rw [hstage]
      by_cases hbb : b' = b
      · subst hbb
        rw [World.stage_setStage_self (World.lt_length_of_container? hc)]
        exact .of_container?_eq_none (fun l => by simp [mem_drop]) rfl
          (by simp [Stage.registryNumber?])
      · rw [World.stage_setStage_of_ne hbb]
        exact (h.stage b').congr (fun l => by simp [mem_drop, hbb]) rfl
    · intro b' hb'
      rw [World.stages_shutdown hc, World.length_stages_setStage] at hb'
      exact h.unassigned b' hb'

lemma Agrees.abandon {k : Custody} {w : World} (h : k.Agrees w) (b : Nat) :
    k.Agrees (w.abandon b) := by
  rw [World.abandon]
  split
  · rename_i s pending hs
    exact h.setStage (by rw [hs]; rfl) rfl (by simp [Stage.registryNumber?])
  · exact h

theorem Agrees.step {k : Custody} {w : World} (h : k.Agrees w) (s : Step) :
    (k.observe s (w.step s).2).Agrees (w.step s).1 := by
  cases s with
  | reserve r id => exact h.reserve r id
  | dropLease n => exact h.dropLease n
  | newBuilder => exact h.newBuilder
  | call b c => exact h.call b c
  | poll b params => exact h.poll b params
  | abandon b => exact h.abandon b
  | shutdown b => exact h.shutdown b
  | produce bean =>
    change k.Agrees (w.produce bean).1
    rw [World.produce]
    cases bean.definition.producer <;> exact h.of_same rfl rfl rfl
  | fire b name payload =>
    change k.Agrees (w.fire b name payload)
    rw [World.fire]
    cases w.container? b <;> exact h.of_same rfl rfl rfl
  | _ => exact h.of_same rfl rfl rfl

/-- The account stays true along every run. -/
theorem Agrees.run {k : Custody} {w : World} (h : k.Agrees w) (steps : List Step) :
    (k.observeAll steps (w.run steps).2).Agrees (w.run steps).1 := by
  induction steps generalizing k w with
  | nil => exact h
  | cons s ss ih => exact ih (h.step s)

/-- Nothing is held in the world in which nothing has happened. -/
theorem agrees_init : Custody.Agrees {} {} where
  covers := ⟨fun r id => by simp [Registry.empty], List.nodup_nil⟩
  lease_iff n l := by simp
  stage b := by
    have hs : World.stage {} b = .failed := by simp [World.stage]
    rw [hs]
    exact .of_container?_eq_none (by simp) rfl (by simp [Stage.registryNumber?])
  unassigned b _ := rfl

theorem agrees_ofRun (steps : List Step) :
    (ofRun steps).Agrees (({} : World).run steps).1 :=
  agrees_init.run steps

/-! ### What registries hold -/

/-- An account tells exactly what the registries of a world hold, and for whom. -/
structure IsExact (k : Custody) (w : World) : Prop where
  /-- The leases of the account are those that have been taken and not been dropped. -/
  lease_iff : ∀ n l, (.lease n, l) ∈ k.holders ↔ w.leases[n]? = some (some l)
  /-- The containers of the account are those that are up and have an identifier. They hold it in
  the registry that their builder was given. -/
  container_iff : ∀ b r id, (.container b, ⟨r, id⟩) ∈ k.holders ↔
    ∃ c, w.container? b = some c ∧ c.model.containerId = some id ∧ k.assigned b = r
  inUse_iff : ∀ r id, (w.registries r).inUse id = true ↔ ∃ h, (h, ⟨r, id⟩) ∈ k.holders
  holder_unique : ∀ r id, (w.registries r).inUse id = true → ∃! h, (h, ⟨r, id⟩) ∈ k.holders
  size_eq : ∀ r, (w.registries r).size = (k.heldIn r).length
  isEmpty_iff : ∀ r, (w.registries r).size = 0 ↔ ∀ h id, (h, ⟨r, id⟩) ∉ k.holders
  reserve_iff : ∀ r id, (w.reserve r id).2.isSome = true ↔ ∀ h, (h, ⟨r, id⟩) ∉ k.holders
  /-- Dropping a lease lets go of its identifier in its registry, and of nothing else. -/
  dropLease_iff : ∀ n l, (.lease n, l) ∈ k.holders → ∀ r id,
    ((w.dropLease n).registries r).inUse id = true ↔
      (w.registries r).inUse id = true ∧ ⟨r, id⟩ ≠ l
  /-- A container that goes down lets go of its identifier, and of nothing else. -/
  shutdown_iff : ∀ b r id, ((w.shutdown b).registries r).inUse id = true ↔
    (w.registries r).inUse id = true ∧ (.container b, ⟨r, id⟩) ∉ k.holders
  /-- A poll that does not hand out a container leaves no identifier behind. -/
  registries_poll : ∀ b params, (∀ model, (w.poll b params).2 ≠ .ready (.ok model)) →
    (w.poll b params).1.registries = w.registries
  /-- Nor does a start that is abandoned. -/
  registries_abandon : ∀ b, (w.abandon b).registries = w.registries
  /-- Nor does a start that ends without a container or is abandoned after any number of polls. -/
  registries_bootstrap : ∀ b params polls,
    (∀ model, (w.bootstrap b params polls).2 ≠ some (.ok model)) →
    (w.bootstrap b params polls).1.registries = w.registries

lemma Agrees.container_iff {k : Custody} {w : World} (h : k.Agrees w) {b r : Nat} {id : String} :
    (Holder.container b, ⟨r, id⟩) ∈ k.holders ↔
      ∃ c, w.container? b = some c ∧ c.model.containerId = some id ∧ k.assigned b = r := by
  rw [(h.stage b).holder_iff, Stage.lease?, Option.bind_eq_some_iff]
  refine exists_congr fun c => and_congr_right fun hc => ?_
  rw [(h.stage b).lease_eq c hc]
  constructor
  · intro hm
    obtain ⟨id', hid, e⟩ := Option.map_eq_some_iff.1 hm
    simp only [Lease.mk.injEq] at e
    obtain ⟨hr, rfl⟩ := e
    exact ⟨hid, hr⟩
  · rintro ⟨hid, rfl⟩
    rw [hid]
    rfl

lemma Agrees.inUse_iff {k : Custody} {w : World} (h : k.Agrees w) {r : Nat} {id : String} :
    (w.registries r).inUse id = true ↔ ∃ x, (x, ⟨r, id⟩) ∈ k.holders := by
  rw [Registry.inUse_iff, h.covers.held_iff]

lemma Agrees.holder_unique {k : Custody} {w : World} (h : k.Agrees w) {r : Nat} {id : String}
    (hid : (w.registries r).inUse id = true) : ∃! x, (x, ⟨r, id⟩) ∈ k.holders := by
  obtain ⟨x, hx⟩ := h.inUse_iff.1 hid
  exact ⟨x, hx, fun y hy => h.covers.holder_unique hy hx⟩

lemma Agrees.size_eq_zero_iff {k : Custody} {w : World} (h : k.Agrees w) {r : Nat} :
    (w.registries r).size = 0 ↔ ∀ x id, (x, ⟨r, id⟩) ∉ k.holders := by
  rw [Registry.size, List.length_eq_zero_iff, List.eq_nil_iff_forall_not_mem]
  simp only [h.covers.held_iff, not_exists]
  exact forall_comm

lemma Agrees.isSome_reserve_iff {k : Custody} {w : World} (h : k.Agrees w) {r : Nat}
    {id : String} : (w.reserve r id).2.isSome = true ↔ ∀ x, (x, ⟨r, id⟩) ∉ k.holders := by
  rw [← not_exists, ← h.covers.held_iff, World.reserve]
  cases hr : (w.registries r).reserve? id with
  | none => simp [Registry.reserve?_eq_none_iff.1 hr]
  | some content => simp [(Registry.held_of_reserve? hr).1]

lemma Agrees.inUse_dropLease_iff {k : Custody} {w : World} (h : k.Agrees w) {n : Nat} {l : Lease}
    (hl : (.lease n, l) ∈ k.holders) {r : Nat} {id : String} :
    ((w.dropLease n).registries r).inUse id = true ↔
      (w.registries r).inUse id = true ∧ ⟨r, id⟩ ≠ l := by
  rw [World.dropLease, (h.lease_iff n l).1 hl, Registry.inUse_iff, Registry.inUse_iff]
  exact World.mem_held_release.trans (and_congr_right fun _ => ne_comm)

lemma Agrees.inUse_shutdown_iff {k : Custody} {w : World} (h : k.Agrees w) {b r : Nat}
    {id : String} : ((w.shutdown b).registries r).inUse id = true ↔
      (w.registries r).inUse id = true ∧ (.container b, ⟨r, id⟩) ∉ k.holders := by
  rw [(h.stage b).holder_iff, Registry.inUse_iff, Registry.inUse_iff, Stage.lease?]
  cases hc : w.container? b with
  | none =>
    have hc' : (w.stage b).container? = none := hc
    simp [World.shutdown_of_none hc, hc']
  | some c =>
    have hc' : (w.stage b).container? = some c := hc
    rw [World.mem_held_shutdown hc, hc', Option.bind_some]

/-- The account of every run tells exactly what the registries hold. -/
theorem isExact_ofRun (steps : List Step) :
    (ofRun steps).IsExact (({} : World).run steps).1 := by
  have h := agrees_ofRun steps
  exact {
    lease_iff := h.lease_iff
    container_iff := fun b r id => h.container_iff
    inUse_iff := fun r id => h.inUse_iff
    holder_unique := fun r id => h.holder_unique
    size_eq := h.covers.size_eq
    isEmpty_iff := fun r => h.size_eq_zero_iff
    reserve_iff := fun r id => h.isSome_reserve_iff
    dropLease_iff := fun n l hl r id => h.inUse_dropLease_iff hl
    shutdown_iff := fun b r id => h.inUse_shutdown_iff
    registries_poll := fun b params => World.registries_poll
    registries_abandon := World.registries_abandon _
    registries_bootstrap := fun b params polls => World.registries_bootstrap }

end Custody

end BeanContainer
