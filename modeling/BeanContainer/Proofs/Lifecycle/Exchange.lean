import BeanContainer.Proofs.Deployment.Aspects
import BeanContainer.Proofs.Lifecycle.Calls
/-!
# Calls in another order

Two calls on one builder that follow each other and concern different aspects of its deployment can
be exchanged, in any run and with any arguments: what comes of each of them is the same, and so is
everything that happens later. If both concern the classes to be deployed, but are calls for
different lists, then the exchange can be seen in the order of these classes and in the references
by which they are given, and nowhere else.
-/

namespace BeanContainer

/-- Lists that differ in the order of two neighbours, the first of which has position `n`. -/
def ExchangedAt {α : Type} (n : Nat) (xs ys : List α) : Prop :=
  ∃ pre x y post, pre.length = n ∧ xs = pre ++ x :: y :: post ∧ ys = pre ++ y :: x :: post

lemma exchangedAt_append {α : Type} (pre : List α) (x y : α) (post : List α) :
    ExchangedAt pre.length (pre ++ x :: y :: post) (pre ++ y :: x :: post) :=
  ⟨pre, x, y, post, rfl, rfl, rfl⟩

namespace Deployment

/-- A refused call can be exchanged with every other, as it changes nothing. -/
lemma afterCall_afterCall {P : Deployment → Deployment → Prop} (hrefl : ∀ d, P d d)
    {d : Deployment} {c c' : Call} (h : P ((d.apply c).apply c') ((d.apply c').apply c)) :
    P ((d.afterCall c).afterCall c') ((d.afterCall c').afterCall c) := by
  cases hc : c.fault? with
  | some a =>
    simp only [afterCall_of_fault? hc]
    exact hrefl _
  | none =>
    cases hc' : c'.fault? with
    | some a =>
      simp only [afterCall_of_fault? hc']
      exact hrefl _
    | none =>
      simp only [afterCall_of_fault?_eq_none hc, afterCall_of_fault?_eq_none hc']
      exact h

lemma Reordered.afterCall {d d' : Deployment} (h : d.Reordered d') (c : Call) :
    (d.afterCall c).Reordered (d'.afterCall c) := by
  cases hc : c.fault? with
  | some a => simpa only [afterCall_of_fault? hc] using h
  | none => simpa only [afterCall_of_fault?_eq_none hc] using h.apply c

/-- Later calls do not look at the order of the classes to be deployed. -/
lemma Reordered.foldl_afterCall {d d' : Deployment} (h : d.Reordered d') (calls : List Call) :
    (calls.foldl Deployment.afterCall d).Reordered (calls.foldl Deployment.afterCall d') := by
  induction calls generalizing d d' with
  | nil => exact h
  | cons c cs ih => exact ih (h.afterCall c)

end Deployment

namespace World

/-- What comes of calls on one builder does not depend on the calls before them. -/
lemma exists_results_of_calls (w : World) (b : Nat) :
    ∃ result : Call → StepResult,
      ∀ calls : List Call, (w.run (calls.map (.call b))).2 = calls.map result := by
  by_cases h : ∃ d, w.stage b = .configuring d
  · obtain ⟨d, hd⟩ := h
    exact ⟨fun c => .called c.verdict, fun calls => by rw [run_calls hd]⟩
  · obtain ⟨e, he⟩ := exists_run_calls_eq_of_used (not_exists.1 h)
    exact ⟨fun _ => .called (.error (.illegalState e)), fun calls => by rw [he]⟩

/-- Calls that concern different aspects leave the same world in either order. -/
lemma run_calls_comm (w : World) (b : Nat) {c c' : Call} (h : c.aspect ≠ c'.aspect) :
    (w.run ([c', c].map (.call b))).1 = (w.run ([c, c'].map (.call b))).1 := by
  by_cases hw : ∃ d, w.stage b = .configuring d
  · obtain ⟨d, hd⟩ := hw
    have hcomm : (d.afterCall c').afterCall c = (d.afterCall c).afterCall c' :=
      Deployment.afterCall_afterCall (P := Eq) (fun _ => rfl) (d.apply_comm h.symm)
    rw [run_calls hd, run_calls hd]
    simp only [List.foldl_cons, List.foldl_nil, hcomm]
  · obtain ⟨e, he⟩ := exists_run_calls_eq_of_used (not_exists.1 hw)
    rw [he, he]

/-- Two worlds that differ at most in the order of the classes that a builder is to deploy, and in
the references by which they are given. -/
def ReorderedAt (b : Nat) (w w' : World) : Prop :=
  w' = w ∨ ∃ d d', w.stage b = .configuring d ∧ d.Reordered d' ∧
    w' = w.setStage b (.configuring d')

lemma reorderedAt_run_calls (w : World) (b : Nat) {c c' : Call} (hc : c.aspect = .classes)
    (hc' : c'.aspect = .classes) (h : c.role? ≠ c'.role?) (calls : List Call) :
    ReorderedAt b (w.run ((c :: c' :: calls).map (.call b))).1
      (w.run ((c' :: c :: calls).map (.call b))).1 := by
  by_cases hw : ∃ d, w.stage b = .configuring d
  · obtain ⟨d, hd⟩ := hw
    have hpair : ((d.afterCall c).afterCall c').Reordered ((d.afterCall c').afterCall c) :=
      Deployment.afterCall_afterCall Deployment.Reordered.refl (d.reordered_apply_comm hc hc' h)
    rw [run_calls hd, run_calls hd]
    refine .inr ⟨_, _, stage_setStage_self (lt_length_of_configuring hd) _,
      hpair.foldl_afterCall calls, ?_⟩
    rw [setStage_setStage]
    rfl
  · obtain ⟨e, he⟩ := exists_run_calls_eq_of_used (not_exists.1 hw)
    exact .inl (by rw [he, he])

end World

/-- Two calls on one builder, one right after the other, with any steps before them.

If they concern different aspects of the deployment, they can be exchanged: whatever happens
afterwards, the world ends up the same, and every step has the same result, those of the two calls
having changed places with them. This holds for calls that are refused, too.

If both concern the classes to be deployed, but one of them adds to these alone, or to the
interceptors, or to the decorators, and the other one does not do the same, then their exchange can
be seen in the order of the classes to be deployed and in the references by which they are given,
however many calls follow, and in nothing else. -/
theorem exchange_of_calls (w : World) (before : List Step) (b : Nat) (c c' : Call) :
    let inOrder := fun after => w.run (before ++ .call b c :: .call b c' :: after)
    let exchanged := fun after => w.run (before ++ .call b c' :: .call b c :: after)
    (c.aspect ≠ c'.aspect → ∀ after,
      (exchanged after).1 = (inOrder after).1 ∧
      ExchangedAt before.length (inOrder after).2 (exchanged after).2) ∧
    (c.aspect = .classes → c'.aspect = .classes → c.role? ≠ c'.role? → ∀ calls : List Call,
      World.ReorderedAt b (inOrder (calls.map (.call b))).1 (exchanged (calls.map (.call b))).1 ∧
      ExchangedAt before.length (inOrder (calls.map (.call b))).2
        (exchanged (calls.map (.call b))).2) := by
  intro inOrder exchanged
  obtain ⟨result, hresult⟩ := (w.run before).1.exists_results_of_calls b
  refine ⟨fun h after => ?_, fun hc hc' h calls => ?_⟩
  · have hsplit : ∀ c c', w.run (before ++ .call b c :: .call b c' :: after) =
        w.run (before ++ ([c, c'].map (.call b) ++ after)) := fun _ _ => rfl
    -- the two calls leave one world, so what follows them is the same
    simp only [inOrder, exchanged, hsplit]
    simp only [World.run_append, World.run_calls_comm _ b h, hresult, true_and]
    rw [w.length_run before]
    exact exchangedAt_append _ _ _ _
  · have hsplit : ∀ c c', w.run (before ++ .call b c :: .call b c' :: calls.map (.call b)) =
        w.run (before ++ (c :: c' :: calls).map (.call b)) := fun _ _ => rfl
    -- here the worlds may differ, but what comes of later calls does not depend on them
    simp only [inOrder, exchanged, hsplit]
    simp only [World.run_append, hresult]
    rw [w.length_run before]
    exact ⟨World.reorderedAt_run_calls _ b hc hc' h calls, exchangedAt_append _ _ _ _⟩

/-- An interceptor, given without its marker. -/
def enablingAudit : Call := .enable .interceptor [⟨⟨"app::Audit", .system⟩, {}⟩]

/-- The same class with its marker, after another one. -/
def addingAudit : Call :=
  .addBeanClasses
    [⟨⟨"app::Order", .system⟩, {}⟩, ⟨⟨"app::Audit", .system⟩, { interceptor := true }⟩]

/-- A property without a key, which is refused. -/
def settingKeyless : Call := .setProperty "" (.natural 1)

theorem exchange_of_calls_audit :
    enablingAudit.aspect ≠ settingKeyless.aspect ∧
      (({} : World).run
          [.newBuilder, .call 0 settingKeyless, .call 0 enablingAudit, .poll 0 ∅]).1 =
        (({} : World).run
          [.newBuilder, .call 0 enablingAudit, .call 0 settingKeyless, .poll 0 ∅]).1 ∧
      enablingAudit.aspect = .classes ∧ addingAudit.aspect = .classes ∧
      enablingAudit.role? ≠ addingAudit.role? ∧
      World.ReorderedAt 0
        (({} : World).run [.newBuilder, .call 0 enablingAudit, .call 0 addingAudit]).1
        (({} : World).run [.newBuilder, .call 0 addingAudit, .call 0 enablingAudit]).1 ∧
      ∃ d d',
        (({} : World).run [.newBuilder, .call 0 enablingAudit, .call 0 addingAudit]).1.stage 0 =
          .configuring d ∧
        (({} : World).run [.newBuilder, .call 0 addingAudit, .call 0 enablingAudit]).1.stage 0 =
          .configuring d' ∧
        d.beanClasses.toList = [⟨⟨"app::Audit", .system⟩, {}⟩, ⟨⟨"app::Order", .system⟩, {}⟩] ∧
        d'.beanClasses.toList =
          [⟨⟨"app::Order", .system⟩, {}⟩, ⟨⟨"app::Audit", .system⟩, { interceptor := true }⟩] := by
  have haspect : enablingAudit.aspect ≠ settingKeyless.aspect := nofun
  have hrole : enablingAudit.role? ≠ addingAudit.role? := nofun
  obtain ⟨hsame, -⟩ :=
    (exchange_of_calls {} [.newBuilder] 0 enablingAudit settingKeyless).1 haspect [.poll 0 ∅]
  obtain ⟨hreordered, -⟩ :=
    (exchange_of_calls {} [.newBuilder] 0 enablingAudit addingAudit).2 rfl rfl hrole []
  exact ⟨haspect, hsame, rfl, rfl, hrole, hreordered, _, _, rfl, rfl, rfl, rfl⟩

end BeanContainer
