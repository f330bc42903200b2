import BeanContainer.Proofs.Deployment.Batches
import BeanContainer.Proofs.Lifecycle.Calls
import BeanContainer.Proofs.Lifecycle.Named
import BeanContainer.Proofs.Lifecycle.Written
/-!
# All or nothing

A call on a builder that can be configured is refused exactly if something in its argument is at
fault, in whatever place: a class without a name, a property without a key, or a property whose
value has no JSON form (`ArgumentError.isFaultOf_iff`). A refused call changes nothing. An accepted
one does what its elements do one by one, so it can be split into calls with fewer elements at will.
-/

namespace BeanContainer

namespace ArgumentError

/-- Whether the argument of a call has the given fault. Of a property without a key the value is not
looked at. -/
def IsFaultOf (c : Call) : ArgumentError → Prop
  | .emptyClassName => ∃ x ∈ c.introduced, x.name = ""
  | .emptyPropertyKey => c.hasEmptyKey = true
  | .unencodable key reason => key ≠ "" ∧ ∃ v, c = .setProperty key v ∧ v.encode = .error reason

lemma isFaultOf_of_classFault? {c : Call} {a : ArgumentError}
    (h : Call.classFault? c.introduced = some a) : a.IsFaultOf c := by
  rw [Call.classFault?, Option.ite_none_right_eq_some, List.any_eq_true] at h
  obtain ⟨⟨x, hx, hname⟩, ha⟩ := h
  obtain rfl := Option.some.inj ha
  exact ⟨x, hx, String.isEmpty_iff.1 hname⟩

/-- What a call is refused for is a fault of its argument. -/
lemma isFaultOf_of_fault? {c : Call} {a : ArgumentError} (h : c.fault? = some a) :
    a.IsFaultOf c := by
  cases c with
  | addBeanClasses cs => exact isFaultOf_of_classFault? h
  | addPackages recursive cs => exact isFaultOf_of_classFault? h
  | enable role cs => exact isFaultOf_of_classFault? h
  | configureType c edits => exact isFaultOf_of_classFault? h
  | configureBean c edits => exact isFaultOf_of_classFault? h
  | addOverrides os => exact isFaultOf_of_classFault? h
  | setProperty key v =>
    rw [Call.fault?, Call.propertyFault?] at h
    split at h
    · rename_i hkey
      obtain rfl := Option.some.inj h
      exact hkey
    · rename_i hkey
      split at h
      · cases h
      · rename_i e hv
        obtain rfl := Option.some.inj h
        exact ⟨mt String.isEmpty_iff.2 hkey, v, rfl, hv⟩
  | mergeProperties p =>
    rw [Call.fault?, Option.ite_none_right_eq_some] at h
    obtain rfl := Option.some.inj h.2
    exact h.1
  | _ => cases h

/-- An argument has one fault at most, and a call is refused for it. -/
lemma isFaultOf_iff {c : Call} {a : ArgumentError} : a.IsFaultOf c ↔ c.fault? = some a := by
  refine ⟨fun h => ?_, isFaultOf_of_fault?⟩
  cases a with
  | emptyClassName =>
    obtain ⟨x, hx, hname⟩ := h
    exact Call.fault?_of_nameless hx hname
  | emptyPropertyKey => exact Call.fault?_of_hasEmptyKey h
  | unencodable key reason =>
    obtain ⟨hkey, v, rfl, hv⟩ := h
    have hkey' : key.isEmpty = false := by simpa using hkey
    simp only [Call.fault?, Call.propertyFault?, hkey', hv, Bool.false_eq_true, if_false]

end ArgumentError

/-- A call on a builder that can be configured is refused exactly if its argument has a fault in
some place, and is refused for that fault as an illegal argument; and then nothing has changed. A
call that is accepted has the same effect as calls with one element each, made one after the other
in order, and as any other calls that divide its elements among them and keep the order. All of
these are accepted as well. A call without elements changes nothing. -/
theorem calls_of_configuring {w : World} {b : Nat} {d : Deployment}
    (hd : w.stage b = .configuring d) :
    (∀ c e, (w.call b c).2 = .error e ↔
      ∃ a : ArgumentError, a.IsFaultOf c ∧ e = .illegalArgument a) ∧
    (∀ c e, (w.call b c).2 = .error e → (w.call b c).1 = w) ∧
    (∀ c, (w.call b c).2 = .ok () →
      w.run (c.singles.map (.call b)) =
        ((w.call b c).1, c.singles.map fun _ => .called (.ok ())) ∧
      ∀ calls : List Call, calls.flatMap Call.singles = c.singles →
        w.run (calls.map (.call b)) = ((w.call b c).1, calls.map fun _ => .called (.ok ()))) ∧
    ∀ c : Call, c.singles = [] → w.call b c = (w, .ok ()) := by
  have hsplit : ∀ c, (w.call b c).2 = .ok () → ∀ calls : List Call,
      calls.flatMap Call.singles = c.singles →
        w.run (calls.map (.call b)) = ((w.call b c).1, calls.map fun _ => .called (.ok ())) := by
    intro c hc calls hcalls
    rw [World.call_of_configuring hd] at hc ⊢
    have hfault : c.fault? = none := Call.verdict_eq_ok_iff.1 hc
    have hfaults := Call.fault?_eq_none_of_flatMap_singles hcalls hfault
    rw [World.run_calls hd, Deployment.foldl_afterCall hfaults,
      Deployment.foldl_apply_of_flatMap_singles hcalls,
      Deployment.afterCall_of_fault?_eq_none hfault]
    refine Prod.ext rfl (List.map_congr_left fun c' hc' => ?_)
    rw [Call.verdict_eq_ok_iff.2 (hfaults c' hc')]
  refine ⟨?_, ?_, fun c hc => ⟨hsplit c hc _ ?_, hsplit c hc⟩, ?_⟩
  · intro c e
    simp only [World.call_of_configuring hd, Call.verdict_eq_error_iff,
      ArgumentError.isFaultOf_iff]
  · intro c e hc
    rw [World.call_of_configuring hd] at hc ⊢
    obtain ⟨a, ha, -⟩ := Call.verdict_eq_error_iff.1 hc
    rw [Deployment.afterCall_of_fault? ha, ← hd, World.setStage_stage]
  · exact c.flatMap_singles_singles
  · intro c hc
    have hfault : c.fault? = none := by
      rw [Call.fault?_eq_none_iff, hc]
      exact List.forall_mem_nil _
    have hsame : d.apply c = d := by
      rw [← Deployment.foldl_apply_singles, hc, List.foldl_nil]
    rw [World.call_of_configuring hd, Deployment.afterCall_of_fault?_eq_none hfault, hsame, ← hd,
      World.setStage_stage, Call.verdict_eq_ok_iff.2 hfault]

/-- Three classes, the last of which has no name. -/
def namelessThird : List ClassRef :=
  [⟨⟨"app::Audit", .system⟩, {}⟩, ⟨⟨"app::Trace", .system⟩, {}⟩, ⟨⟨"", .system⟩, {}⟩]

theorem calls_of_configuring_namelessThird :
    ∃ w d, w = (({} : World).run [.newBuilder]).1 ∧ w.stage 0 = .configuring d ∧
      w.call 0 (.enable .interceptor namelessThird) =
        (w, .error (.illegalArgument .emptyClassName)) ∧
      w.run ([.addBeanClasses [⟨⟨"app::Order", .system⟩, {}⟩],
          .addBeanClasses (namelessThird.take 2)].map (.call 0)) =
        ((w.call 0 (.addBeanClasses (⟨⟨"app::Order", .system⟩, {}⟩ :: namelessThird.take 2))).1,
          [.called (.ok ()), .called (.ok ())]) ∧
      w.call 0 (.addExtensions []) = (w, .ok ()) := by
  have hd : (({} : World).run [.newBuilder]).1.stage 0 = .configuring _ := rfl
  obtain ⟨hrefused, hunchanged, hsplit, hempty⟩ := calls_of_configuring hd
  have hnameless : ∃ x ∈ namelessThird, x.name = "" :=
    ⟨⟨⟨"", .system⟩, {}⟩, by simp [namelessThird], rfl⟩
  have herror := (hrefused (.enable .interceptor namelessThird) _).2
    ⟨.emptyClassName, hnameless, rfl⟩
  exact ⟨_, _, rfl, hd, Prod.ext (hunchanged _ _ herror) herror, (hsplit _ rfl).2 _ rfl,
    hempty _ rfl⟩

end BeanContainer
