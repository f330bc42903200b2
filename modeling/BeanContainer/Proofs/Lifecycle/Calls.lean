import BeanContainer.Proofs.Lifecycle.Configuration
/-!
# Runs of calls

As long as a builder can be configured, a call on it has two effects: its verdict, which depends on
its argument alone, and a change of the deployment, which is none if the call is refused. So a run
of calls on one builder folds them over the deployment (`World.run_calls`). On a builder that has
been used up, every call is refused in the same way and changes nothing
(`World.exists_run_calls_eq_of_used`).
-/

namespace BeanContainer

/-- What becomes of a call on a builder that can be configured. -/
def Call.verdict (c : Call) : Except BootstrapError Unit :=
  match c.fault? with
  | some e => .error (.illegalArgument e)
  | none => .ok ()

lemma Call.verdict_eq_error_iff {c : Call} {e : BootstrapError} :
    c.verdict = .error e ↔ ∃ a, c.fault? = some a ∧ e = .illegalArgument a := by
  rw [verdict]
  cases c.fault? with
  | none => simp
  | some a => simp [eq_comm]

lemma Call.verdict_eq_ok_iff {c : Call} : c.verdict = .ok () ↔ c.fault? = none := by
  rw [verdict]
  cases c.fault? <;> simp

/-- The deployment after a call, which may have been refused. -/
def Deployment.afterCall (d : Deployment) (c : Call) : Deployment :=
  match c.fault? with
  | some _ => d
  | none => d.apply c

lemma Deployment.afterCall_of_fault? {c : Call} {a : ArgumentError} (h : c.fault? = some a)
    (d : Deployment) : d.afterCall c = d := by
  rw [afterCall, h]

lemma Deployment.afterCall_of_fault?_eq_none {c : Call} (h : c.fault? = none) (d : Deployment) :
    d.afterCall c = d.apply c := by
  rw [afterCall, h]

/-- Calls without faults all take effect. -/
lemma Deployment.foldl_afterCall {calls : List Call} (h : ∀ c ∈ calls, c.fault? = none)
    (d : Deployment) : calls.foldl afterCall d = calls.foldl apply d := by
  induction calls generalizing d with
  | nil => rfl
  | cons c cs ih =>
    rw [List.foldl_cons, List.foldl_cons, afterCall_of_fault?_eq_none (h c List.mem_cons_self),
      ih fun c' hc' => h c' (List.mem_cons_of_mem c hc')]

namespace World

variable {w : World} {b : Nat} {d : Deployment}

@[simp] lemma setStage_setStage (w : World) (b : Nat) (s s' : Stage) :
    (w.setStage b s).setStage b s' = w.setStage b s' := by
  simp [setStage]

/-- A call on a builder that can be configured changes the deployment and nothing else. -/
lemma call_of_configuring (hd : w.stage b = .configuring d) (c : Call) :
    w.call b c = (w.setStage b (.configuring (d.afterCall c)), c.verdict) := by
  cases hc : c.fault? with
  | some a =>
    rw [call_of_fault? hd hc, Deployment.afterCall_of_fault? hc, ← hd, setStage_stage, Call.verdict,
      hc]
  | none =>
    rw [call_of_fault?_eq_none hd hc, Deployment.afterCall_of_fault?_eq_none hc, Call.verdict, hc]

theorem run_calls (hd : w.stage b = .configuring d) (calls : List Call) :
    w.run (calls.map (.call b)) =
      (w.setStage b (.configuring (calls.foldl .afterCall d)),
        calls.map fun c => .called c.verdict) := by
  induction calls generalizing w d with
  | nil => rw [List.map_nil, run_nil, List.foldl_nil, ← hd, setStage_stage, List.map_nil]
  | cons c cs ih =>
    have hstep : w.step (.call b c) =
        (w.setStage b (.configuring (d.afterCall c)), .called c.verdict) := by
      rw [step, call_of_configuring hd]
      rfl
    have hnext : (w.setStage b (.configuring (d.afterCall c))).stage b =
        .configuring (d.afterCall c) := stage_setStage_self (lt_length_of_configuring hd) _
    rw [List.map_cons, run_cons, hstep, ih hnext, setStage_setStage]
    rfl

/-- Calls on a builder that cannot be configured are refused for what has become of it. -/
lemma exists_run_calls_eq_of_used (h : ∀ d, w.stage b ≠ .configuring d) :
    ∃ e, ∀ calls : List Call, w.run (calls.map (.call b)) =
      (w, calls.map fun _ => .called (.error (.illegalState e))) := by
  obtain ⟨e, he⟩ := exists_call_eq_of_used h
  refine ⟨e, fun calls => ?_⟩
  induction calls with
  | nil => rfl
  | cons c cs ih =>
    have hstep : w.step (.call b c) = (w, .called (.error (.illegalState e))) := by
      rw [step, he]
      rfl
    rw [List.map_cons, run_cons, hstep, ih]
    rfl

end World

end BeanContainer
