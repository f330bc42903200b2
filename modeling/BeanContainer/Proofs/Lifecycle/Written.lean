import BeanContainer.Proofs.Lifecycle.Deployed
/-!
# What is written into properties

Properties are written by calls that set one of them, by calls that merge many, and by the
parameters of a start. Whoever writes a key last replaces its value as a whole; a write that fails
and a call that is refused write nothing; and no key is ever lost. So the properties of a deployment
can be read off the calls that were accepted, key by key (`World.get?_properties`).

Calls never write the empty key (`World.get?_properties_empty`), but the parameters of a start may:
nobody looks at their keys.
-/

namespace BeanContainer

/-! ### Merging -/

namespace Dictionary

variable {κ α : Type} [Ord κ]

/-- Every key is listed once, in ascending order. -/
lemma pairwise_keys (d : Dictionary κ α) : d.keys.Pairwise fun k k' => compare k k' = .lt :=
  d.ascending.map Prod.fst fun _ _ h => h

variable [Std.TransOrd κ] [Std.LawfulEqOrd κ]

lemma merge_assoc (a b c : Dictionary κ α) : (a.merge b).merge c = a.merge (b.merge c) :=
  ext_get? fun k => by simp only [get?_merge, Option.or_assoc]

@[simp] lemma merge_empty (d : Dictionary κ α) : d.merge ∅ = d := rfl

@[simp] lemma empty_merge (d : Dictionary κ α) : (∅ : Dictionary κ α).merge d = d :=
  ext_get? fun k => by simp only [get?_merge, get?_empty, Option.or_none]

lemma mem_keys_merge {a b : Dictionary κ α} {k : κ} :
    k ∈ (a.merge b).keys ↔ k ∈ a.keys ∨ k ∈ b.keys := by
  simp only [mem_keys_iff, contains, get?_merge, Option.isSome_or, Bool.or_eq_true, or_comm]

end Dictionary

/-! ### Writes that may fail -/

namespace Properties

/-- The value that a write puts under a key, if it does. -/
def written? (k : String) (key : String) (v : Encodable) : Option Json :=
  if key = k then v.encode.toOption else none

lemma get?_run_write (p : Properties) (key : String) (v : Encodable) (k : String) :
    ((write key v).run p).2.get? k = (written? k key v).or (p.get? k) := by
  rw [run_write, written?]
  cases v.encode with
  | error e => simp [Except.toOption]
  | ok j =>
    by_cases hk : key = k
    · simp [Except.toOption, hk]
    · simp [hk, Dictionary.get?_insert, Ne.symm hk]

/-- A write that fails leaves the properties as they are. -/
lemma run_write_of_error {p : Properties} {key : String} {v : Encodable} {e : EncodeError}
    (h : ((write key v).run p).1 = .error e) : ((write key v).run p).2 = p := by
  rw [run_write] at h ⊢
  cases hv : v.encode with
  | error e' => rfl
  | ok j =>
    rw [hv] at h
    cases h

lemma set_eq (p : Properties) (key : String) (v : Encodable) :
    p.set key v = ((write key v).run p).1.map fun _ => ((write key v).run p).2 := by
  rw [set]
  cases (write key v).run p with
  | mk r written => cases r <;> rfl

end Properties

/-! ### Calls -/

namespace Call

/-- The value that a call puts under a key, if it does. -/
def written? (k : String) : Call → Option Json
  | .setProperty key v => Properties.written? k key v
  | .mergeProperties p => p.get? k
  | _ => none

lemma isSome_latest?_iff {α : Type} {value? : Call → Option α} {calls : List Call} :
    (latest? value? calls).isSome = true ↔ ∃ c ∈ calls, (value? c).isSome = true := by
  rw [latest?, List.getLast?_isSome, ne_eq, List.filterMap_eq_nil_iff]
  simp [Option.isSome_iff_ne_none]

end Call

namespace Deployment

/-- A call writes what it says, and leaves all other keys alone. -/
lemma get?_properties_apply (d : Deployment) (c : Call) (k : String) :
    (d.apply c).properties.get? k = (c.written? k).or (d.properties.get? k) := by
  cases c with
  | setProperty key v =>
    rw [Call.written?, ← Properties.get?_run_write, Properties.run_write, apply]
    cases v.encode <;> rfl
  | mergeProperties p => exact d.properties.get?_merge p k
  | addPackages recursive cs => simp [apply, foldl_requestPackage, Call.written?]
  | addExtensions xs => simp [apply, foldl_addExtension, Call.written?]
  | addBeans bs =>
    rw [apply, foldl_addBean]
    rfl
  | _ => rfl

end Deployment

/-! ### Starts -/

/-- Under each key is what the calls on the builder have written there last. -/
lemma World.get?_properties {steps : List Step} {b : Nat} {d : Deployment}
    (hd : (({} : World).run steps).1.stage b = .configuring d) (k : String) :
    d.properties.get? k =
      Call.latest? (Call.written? k) (acceptedCalls b steps (({} : World).run steps).2) := by
  refine configuring_induction (P := fun calls d =>
    d.properties.get? k = Call.latest? (Call.written? k) calls) (fun _ => rfl) ?_ hd
  intro calls d c h _
  rw [Deployment.get?_properties_apply, h, Call.latest?_concat]

/-- The keys of the properties are those that the calls on the builder have written. -/
lemma World.mem_keys_properties {steps : List Step} {b : Nat} {d : Deployment}
    (hd : (({} : World).run steps).1.stage b = .configuring d) {k : String} :
    k ∈ d.properties.keys ↔
      ∃ c ∈ acceptedCalls b steps (({} : World).run steps).2, (c.written? k).isSome = true := by
  rw [Dictionary.mem_keys_iff, Dictionary.contains, get?_properties hd, Call.isSome_latest?_iff]

/-- A key that has been written is not lost as long as the builder can be configured. -/
lemma World.mem_keys_properties_append {pre post : List Step} {b : Nat} {d d' : Deployment}
    (hd' : (({} : World).run pre).1.stage b = .configuring d')
    (hd : (({} : World).run (pre ++ post)).1.stage b = .configuring d) {k : String}
    (hk : k ∈ d'.properties.keys) : k ∈ d.properties.keys := by
  obtain ⟨c, hc, hwritten⟩ := (mem_keys_properties hd').1 hk
  refine (mem_keys_properties hd).2 ⟨c, ?_, hwritten⟩
  rw [run_append, acceptedCalls_append b (length_run _ pre)]
  exact List.mem_append_left _ hc

/-- The properties of a container have under each key what its parameters have there, or else what
was written there last by the calls that its builder accepted. They list exactly the keys that were
written, and no key is lost on the way. This is in keeping with the laws of merging and of writes
that may fail. -/
theorem properties_of_start {before : List Step} {b : Nat} {params : Properties} {d : Deployment}
    {w : World} {model : Model}
    (hd : (({} : World).run before).1.stage b = .configuring d)
    (hw : (({} : World).run before).1.InProgress b params w)
    (hr : (w.poll b params).2 = .ready (.ok model)) :
    let calls := acceptedCalls b before (({} : World).run before).2
    (∀ k, model.properties.get? k =
      (params.get? k).or (Call.latest? (Call.written? k) calls)) ∧
    (∀ k, k ∈ model.properties.keys ↔
      k ∈ params.keys ∨ ∃ c ∈ calls, (c.written? k).isSome = true) ∧
    model.properties.keys.Pairwise (fun k k' => compare k k' = .lt) ∧
    (∀ pre post d', before = pre ++ post →
      (({} : World).run pre).1.stage b = .configuring d' →
      ∀ k ∈ d'.properties.keys, k ∈ model.properties.keys) ∧
    (∀ pre c post e, before = pre ++ .call b c :: post →
      ((({} : World).run pre).1.call b c).2 = .error e →
      (({} : World).run before).1 = (({} : World).run (pre ++ post)).1) ∧
    (∀ p q r : Properties, (p.merge q).merge r = p.merge (q.merge r)) ∧
    (∀ p : Properties, p.merge ∅ = p ∧ (∅ : Properties).merge p = p) ∧
    ∀ (p : Properties) key v, let r := (Properties.write key v).run p
      (∀ e, r.1 = .error e → r.2 = p) ∧ p.set key v = r.1.map (fun _ => r.2) ∧
      ∀ k, r.2.get? k = (Properties.written? k key v).or (p.get? k) := by
  intro calls
  obtain rfl := hw.model_of_started hd hr
  refine ⟨?_, ?_, Dictionary.pairwise_keys _, ?_, ?_, Dictionary.merge_assoc,
    fun p => ⟨p.merge_empty, p.empty_merge⟩, fun p key v =>
      ⟨fun e h => Properties.run_write_of_error h, p.set_eq key v, p.get?_run_write key v⟩⟩
  · intro k
    show (d.properties.merge params).get? k = _
    rw [Dictionary.get?_merge, World.get?_properties hd]
  · intro k
    show k ∈ (d.properties.merge params).keys ↔ _
    rw [Dictionary.mem_keys_merge, World.mem_keys_properties hd, or_comm]
  · rintro pre post d' rfl hd' k hk
    show k ∈ (d.properties.merge params).keys
    exact Dictionary.mem_keys_merge.2 (.inl (World.mem_keys_properties_append hd' hd hk))
  · intro pre c post e hbefore he
    rw [hbefore]
    exact World.run_of_refused he

/-- A builder with calls that write keys again, one of them a value with entries of its own, and
with refused ones: a property without a key, one without a JSON form, and several with one that has
no key. -/
def competingWrites : List Step :=
  [.newBuilder, .call 0 (.setProperty "size" (.json (.integer 1))),
    .call 0 (.mergeProperties
      (.ofList [("mode", .object [("fast", .bool true)]), ("size", .integer 2)])),
    .call 0 (.setProperty "size" (.mapping [(.composite [], .null)])),
    .call 0 (.setProperty "" (.json (.integer 3))),
    .call 0 (.mergeProperties (.ofList [("mode", .object [("safe", .bool true)])])),
    .call 0 (.mergeProperties (.ofList [("mode", .null), ("", .null)])),
    .call 0 (.setProperty "level" (.json (.integer 4)))]

theorem properties_of_start_competingWrites :
    ∃ d model, (({} : World).run competingWrites).1.stage 0 = .configuring d ∧
      ((({} : World).run competingWrites).1.poll 0 (.ofList [("level", .integer 5)])).2 =
        .ready (.ok model) ∧
      model.properties.keys = ["level", "mode", "size"] ∧
      model.properties.get? "level" = some (.integer 5) ∧
      model.properties.get? "mode" = some (.object [("safe", .bool true)]) ∧
      model.properties.get? "size" = some (.integer 2) ∧
      model.properties.get? "" = none := by
  have hd : (({} : World).run competingWrites).1.stage 0 = .configuring _ := rfl
  obtain ⟨hget, -⟩ := properties_of_start hd (.inl rfl) rfl
  refine ⟨_, _, hd, rfl, ?_, ?_, ?_, ?_, ?_⟩
  · rfl
  all_goals
    rw [hget]
    rfl

/-! ### The empty key -/

namespace Call

/-- Whether a call asks for something to be written under the empty key. -/
def hasEmptyKey : Call → Bool
  | .setProperty key _ => key.isEmpty
  | .mergeProperties p => p.contains ""
  | _ => false

lemma fault?_of_hasEmptyKey {c : Call} (h : c.hasEmptyKey = true) :
    c.fault? = some .emptyPropertyKey := by
  cases c with
  | setProperty key v => exact if_pos h
  | mergeProperties p => exact if_pos h
  | _ => cases h

lemma hasEmptyKey_of_written? {c : Call} {v : Json} (h : c.written? "" = some v) :
    c.hasEmptyKey = true := by
  cases c with
  | setProperty key v' =>
    rw [written?, Properties.written?, Option.ite_none_right_eq_some] at h
    exact String.isEmpty_iff.2 h.1
  | mergeProperties p => exact Option.isSome_iff_exists.2 ⟨v, h⟩
  | _ => cases h

end Call

/-- No call that is accepted writes the empty key. -/
lemma World.get?_properties_empty {steps : List Step} {b : Nat} {d : Deployment}
    (hd : (({} : World).run steps).1.stage b = .configuring d) : d.properties.get? "" = none := by
  refine configuring_induction (P := fun _ d => d.properties.get? "" = none) (fun _ => rfl) ?_ hd
  intro _ d c h hf
  rw [Deployment.get?_properties_apply, h, Option.or_none]
  cases hc : c.written? "" with
  | none => rfl
  | some v => cases (Call.fault?_of_hasEmptyKey (Call.hasEmptyKey_of_written? hc)).symm.trans hf

/-- A container has a value under the empty key exactly if its parameters do, and the same one. The
calls on its builder have written none: those that ask for it are refused and change nothing. -/
theorem emptyKey_of_start {before : List Step} {b : Nat} {params : Properties} {d : Deployment}
    {w : World} {model : Model}
    (hd : (({} : World).run before).1.stage b = .configuring d)
    (hw : (({} : World).run before).1.InProgress b params w)
    (hr : (w.poll b params).2 = .ready (.ok model)) :
    model.properties.get? "" = params.get? "" ∧
    ∀ (v : World) d' c, v.stage b = .configuring d' → c.hasEmptyKey = true →
      v.call b c = (v, .error (.illegalArgument .emptyPropertyKey)) := by
  refine ⟨?_, fun v d' c hd' hc => v.call_of_fault? hd' (Call.fault?_of_hasEmptyKey hc)⟩
  obtain rfl := hw.model_of_started hd hr
  show (d.properties.merge params).get? "" = _
  rw [Dictionary.get?_merge, World.get?_properties_empty hd, Option.or_none]

/-- A builder on which a property without a key is set. -/
def keylessCall : List Step := [.newBuilder, .call 0 (.setProperty "" (.json (.bool true)))]

theorem emptyKey_of_start_keylessCall :
    ∃ d model, (({} : World).run keylessCall).1.stage 0 = .configuring d ∧
      ((({} : World).run keylessCall).1.poll 0 (.ofList [("", .integer 1)])).2 =
        .ready (.ok model) ∧
      model.properties.get? "" = some (.integer 1) ∧
      ((({} : World).run [.newBuilder]).1.call 0 (.setProperty "" (.json (.bool true)))).2 =
        .error (.illegalArgument .emptyPropertyKey) := by
  have hd : (({} : World).run keylessCall).1.stage 0 = .configuring _ := rfl
  obtain ⟨hget, hrefused⟩ := emptyKey_of_start hd (.inl rfl) rfl
  refine ⟨_, _, hd, rfl, ?_, ?_⟩
  · rw [hget]
    rfl
  · rw [hrefused _ _ _ rfl rfl]

/-- Not every container is without a value under the empty key: parameters are not looked at. -/
theorem not_forall_emptyKey :
    ¬ ∀ before b params d w model, (({} : World).run before).1.stage b = .configuring d →
      (({} : World).run before).1.InProgress b params w →
      (w.poll b params).2 = .ready (.ok model) → model.properties.contains "" = false := by
  intro h
  have hempty := h [.newBuilder] 0 (.ofList [("", .integer 1)]) _ _ _ rfl (.inl rfl) rfl
  cases hempty

end BeanContainer
