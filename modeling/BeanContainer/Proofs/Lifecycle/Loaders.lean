import BeanContainer.Proofs.Lifecycle.Deployed
/-!
# Loaders that are closed

Whether the loader of a deployment is closed is looked at once, in the first poll of its start. So a
container never has a loader that had been closed by then (`World.InProgress.isClosed_loader`), and
has an open one if nobody closes it while the start waits (`World.isClosed_of_started`). If somebody
does, the start succeeds all the same (`closedMeanwhile`).
-/

namespace BeanContainer

/-- A loader that had been closed when a start began is a problem of the start. -/
lemma Bootstrap.problems_ne_nil_of_closed {s : Bootstrap} (h : s.closed = true) (f : Findings)
    (registry : Registry) : s.problems f registry ≠ [] := by
  rw [problems, ownProblems, Deployment.problems, if_pos h]
  intro hnil
  cases hnil

namespace World

variable {w : World}

@[simp] lemma closed_launch (w : World) (b : Nat) (s : Bootstrap) (f : Findings) :
    (w.launch b s f).closed = w.closed := by
  simp only [launch]
  cases s.lease? <;> rfl

/-- Only closing a loader closes one. -/
lemma closed_step {s : Step} (hs : ∀ l, s ≠ .closeLoader l) :
    (w.step s).1.closed = w.closed := by
  cases s with
  | closeLoader l => exact absurd rfl (hs l)
  | poll b params =>
    change (w.poll b params).1.closed = _
    generalize hr : w.poll b params = r
    cases PollRule.of_poll hr with
    | launched => exact closed_launch _ _ _ _
    | _ => rfl
  | shutdown b =>
    change (w.shutdown b).closed = _
    cases hc : w.container? b with
    | none => rw [shutdown_of_none hc]
    | some c =>
      rw [shutdown_of_some hc]
      cases c.lease <;> rfl
  | abandon b =>
    change (w.abandon b).closed = _
    rw [abandon]
    split <;> rfl
  | fire b name payload =>
    change (w.fire b name payload).closed = _
    rw [fire]
    split <;> rfl
  | reserve r id =>
    change (w.reserve r id).1.closed = _
    rw [reserve]
    split <;> rfl
  | dropLease n =>
    change (w.dropLease n).closed = _
    rw [dropLease]
    split <;> rfl
  | produce bean =>
    change (w.produce bean).1.closed = _
    rw [produce]
    split <;> rfl
  | _ => rfl

/-- A loader that is open stays open in a run in which it is not closed. -/
lemma isClosed_run {l : Loader} {steps : List Step} (h : w.isClosed l = false)
    (hs : .closeLoader l ∉ steps) : (w.run steps).1.isClosed l = false := by
  induction steps generalizing w with
  | nil => exact h
  | cons s ss ih =>
    rw [List.mem_cons, not_or] at hs
    refine ih ?_ hs.2
    by_cases hclose : ∃ l', s = .closeLoader l'
    · obtain ⟨l', rfl⟩ := hclose
      have hne : l ≠ l' := fun e => hs.1 (congrArg Step.closeLoader e)
      change (l' :: w.closed).contains l = false
      rw [List.contains_cons, beq_false_of_ne hne]
      exact h
    · have hsame : (w.step s).1.closed = w.closed := closed_step (not_exists.1 hclose)
      change (w.step s).1.closed.contains l = false
      rw [hsame]
      exact h

/-- The loader of a container was open when its start began. -/
theorem InProgress.isClosed_loader {w₀ : World} {b : Nat} {d : Deployment} {params : Properties}
    {model : Model} (hw : w₀.InProgress b params w) (hd : w₀.stage b = .configuring d)
    (hm : (w₀.host d.environment).managed = false)
    (hr : (w.poll b params).2 = .ready (.ok model)) : w₀.isClosed model.loader = false := by
  obtain ⟨asked, hp⟩ := hw.progress?_of_ready hd hm hr
  rw [model_of_finished hp hr]
  change w₀.isClosed (w₀.startOf d params).loader = false
  cases hclosed : w₀.isClosed (w₀.startOf d params).loader with
  | false => rfl
  | true =>
    have hne := Bootstrap.problems_ne_nil_of_closed (s := w₀.startOf d params) hclosed
    rw [poll_of_ne_nil hp (hne _ _)] at hr
    cases hr

/-- A container has an open loader if nobody has closed it while its start was waiting. -/
theorem isClosed_of_started {b : Nat} {d : Deployment} {params : Properties} {steps : List Step}
    {model : Model} (hd : w.stage b = .configuring d)
    (hm : (w.host d.environment).managed = false)
    (hw : w.InProgress b params (w.run steps).1)
    (hr : ((w.run steps).1.poll b params).2 = .ready (.ok model))
    (hs : .closeLoader model.loader ∉ steps) :
    ((w.run steps).1.poll b params).1.isClosed model.loader = false := by
  have hopen := isClosed_run (hw.isClosed_loader hd hm hr) hs
  have hsame : ((w.run steps).1.step (.poll b params)).1.closed = (w.run steps).1.closed :=
    closed_step nofun
  change ((w.run steps).1.step (.poll b params)).1.closed.contains model.loader = false
  rw [hsame]
  exact hopen

end World

/-- A start whose loader is closed while it waits. -/
def closedMeanwhile : List Step :=
  [.addEnvironment (.hosted { reply := fun _ _ => .after 1 (.ok []) }), .newBuilder,
    .openLoader "app", .call 0 (.setEnvironment 0), .call 0 (.setLoader ⟨1, "app"⟩), .poll 0 ∅,
    .closeLoader ⟨1, "app"⟩]

/-- Not every container has an open loader: it may have been closed while the start was waiting. -/
theorem not_forall_isClosed_loader :
    ¬ ∀ steps b params model,
      ((({} : World).run steps).1.poll b params).2 = .ready (.ok model) →
        ((({} : World).run steps).1.poll b params).1.isClosed model.loader = false := by
  intro h
  obtain ⟨model, hr, hl⟩ : ∃ model : Model,
      ((({} : World).run closedMeanwhile).1.poll 0 ∅).2 = .ready (.ok model) ∧
        model.loader = ⟨1, "app"⟩ := ⟨_, rfl, rfl⟩
  have hopen := h closedMeanwhile 0 ∅ model hr
  have hclosed : ((({} : World).run closedMeanwhile).1.step (.poll 0 ∅)).1.closed =
      [⟨1, "app"⟩] := World.closed_step nofun
  change ((({} : World).run closedMeanwhile).1.step (.poll 0 ∅)).1.closed.contains _ = false
    at hopen
  rw [hclosed, hl, List.contains_cons, beq_self_eq_true] at hopen
  cases hopen

end BeanContainer
