import BeanContainer.Proofs.Discovery.Indexed
import BeanContainer.Proofs.Lifecycle.Loaders
import BeanContainer.Proofs.Lifecycle.Story
/-!
# What a start discovers in an index

A builder that searches an index discovers exactly the classes that were registered there for its
loader, are not named on it, and are in an archive or in a package that was asked for. So neither
the order nor the number of registrations and of requests makes a difference, except to the order of
the sources.
-/

namespace BeanContainer

/-! ### Indexes in a run -/

/-- The classes that a run registers with an environment, in order. -/
def registrations (environment : Nat) (steps : List Step) : List IndexedClass :=
  steps.filterMap (Step.registration? environment)

lemma registrations_cons (environment : Nat) (s : Step) (ss : List Step) :
    registrations environment (s :: ss) =
      (s.registration? environment).toList ++ registrations environment ss := by
  cases h : s.registration? environment <;> simp [registrations, h]

/-- Whether a step opens an index in which nothing is registered. -/
def Step.opensIndex : Step → Bool
  | .addEnvironment (.indexed _ []) | .newBuilder => true
  | _ => false

namespace World

variable {w : World}

lemma exists_indexed_of_opensIndex (w : World) {s : Step} (h : s.opensIndex = true) :
    ∃ managed, (w.step s).1.environments[w.environments.length]? = some (.indexed managed []) := by
  cases s with
  | newBuilder => exact ⟨false, List.getElem?_concat_length⟩
  | addEnvironment env =>
    cases env with
    | hosted host => cases h
    | indexed managed index =>
      cases index with
      | nil => exact ⟨managed, List.getElem?_concat_length⟩
      | cons e index => cases h
  | _ => cases h

/-- An index holds what has been registered in it. -/
lemma indexed_run {e : Nat} {managed : Bool} {es : List IndexedClass} (steps : List Step)
    (he : w.environments[e]? = some (.indexed managed (.ofRegistrations es))) :
    (w.run steps).1.environments[e]? =
      some (.indexed managed (.ofRegistrations (es ++ registrations e steps))) := by
  induction steps generalizing w es with
  | nil =>
    rw [registrations, List.filterMap_nil, List.append_nil]
    exact he
  | cons s ss ih =>
    rw [registrations_cons, ← List.append_assoc]
    refine ih ((environment_step he s).trans ?_)
    cases s.registration? e with
    | none => rw [Option.toList_none, List.append_nil, Option.elim_none]
    | some entry =>
      rw [Option.toList_some, ClassIndex.ofRegistrations_concat]
      rfl

/-- An index that is opened in a run holds what has been registered in it since. -/
lemma exists_host_of_opensIndex (w : World) (before after : List Step) {s : Step}
    (h : s.opensIndex = true) :
    let e := (w.run before).1.environments.length
    ∃ managed, (w.run (before ++ s :: after)).1.host e =
      (ClassIndex.ofRegistrations (registrations e after)).host managed := by
  intro e
  obtain ⟨managed, hopen⟩ := (w.run before).1.exists_indexed_of_opensIndex h
  have hempty : ((w.run before).1.step s).1.environments[e]? =
      some (.indexed managed (.ofRegistrations [])) := hopen
  refine ⟨managed, ?_⟩
  rw [run_append, run_cons, host, indexed_run after hempty]
  rfl

end World

/-! ### Starts that search an index -/

/-- The start of a builder, to the end at which it succeeds. The builder has discovery enabled, and
its environment is an index that was opened empty. -/
structure IndexedStart where
  /-- What happens before the index is opened. -/
  before : List Step
  opening : Step
  /-- What happens from then on to the first poll. -/
  after : List Step
  builder : Nat
  params : Properties
  deployment : Deployment
  /-- The world of the last poll. -/
  last : World
  model : Model
  opensIndex : opening.opensIndex = true
  configuring : (({} : World).run (before ++ opening :: after)).1.stage builder =
    .configuring deployment
  environment_eq : deployment.environment = (({} : World).run before).1.environments.length
  discovery_eq : deployment.discovery = true
  inProgress : (({} : World).run (before ++ opening :: after)).1.InProgress builder params last
  started : (last.poll builder params).2 = .ready (.ok model)

namespace IndexedStart

def steps (s : IndexedStart) : List Step := s.before ++ s.opening :: s.after

/-- The calls that the builder accepted. -/
def calls (s : IndexedStart) : List Call :=
  acceptedCalls s.builder s.steps (({} : World).run s.steps).2

/-- The loader that was set last, or that of the environment. -/
def loader (s : IndexedStart) : Loader := (Call.latest? Call.loader? s.calls).getD .system

/-- The requests for packages, as they were made. -/
def requests (s : IndexedStart) : List PackageRef := s.calls.flatMap Call.requested

/-- The classes that were named on the builder. -/
def named (s : IndexedStart) : List ClassRef := s.calls.flatMap Call.named

/-- What was registered in the index. -/
def registered (s : IndexedStart) : List IndexedClass :=
  registrations s.deployment.environment s.after

/-- The classes that the model has because a scan found them. -/
def discovered (s : IndexedStart) : List ClassRef :=
  s.model.sources.filterMap (Source.classFor? .discovered)

lemma accumulates (s : IndexedStart) : s.deployment.Accumulates s.calls :=
  World.accumulates_run s.configuring

/-- What is discovered are the classes that scans find and that are not named. -/
lemma exists_discovered_eq (s : IndexedStart) :
    ∃ managed isClosed,
      let host := (ClassIndex.ofRegistrations s.registered).host managed
      isClosed (Call.loader s.calls host) = false ∧
      s.model.loader = Call.loader s.calls host ∧
      s.discovered = Call.classesFor s.calls (Call.found s.calls host isClosed) .discovered := by
  have hm := s.inProgress.managed_of_started s.configuring s.started
  obtain ⟨asked, hfin⟩ := s.inProgress.progress?_of_ready s.configuring hm s.started
  have hmodel := World.model_of_finished hfin s.started
  have hopen := s.inProgress.isClosed_loader s.configuring hm s.started
  obtain ⟨managed, hhost⟩ :=
    ({} : World).exists_host_of_opensIndex s.before s.after s.opensIndex
  rw [← s.environment_eq] at hhost
  have hloader : s.model.loader =
      Call.loader s.calls ((ClassIndex.ofRegistrations s.registered).host managed) := by
    rw [hmodel, registered, ← hhost]
    exact World.loader_startOf s.accumulates s.params
  refine ⟨managed, (({} : World).run s.steps).1.isClosed, ?_, hloader, ?_⟩
  · rw [← hloader]
    exact hopen
  · rw [discovered, hmodel]
    show ((Bootstrap.sources _ s.builder _).filterMap _) = _
    rw [World.sources_startOf s.accumulates, Call.filterMap_classFor?_sources, hhost]
    rfl

/-- A class is discovered exactly if it was registered, belongs to the loader, is not named, and is
in an archive or in a package that was asked for. -/
lemma mem_discovered_iff (s : IndexedStart) (c : ClassRef) :
    c.id ∈ s.discovered.map ClassRef.id ↔
      c.id ∈ s.registered.map IndexedClass.id ∧ c.loader = s.loader ∧
      c.id ∉ s.named.map ClassRef.id ∧
      ((∃ e ∈ s.registered, e.id = c.id ∧ e.archived = true) ∨
        ∃ p ∈ s.requests, p.contains c = true) := by
  obtain ⟨managed, isClosed, hopen, -, hdiscovered⟩ := s.exists_discovered_eq
  have henabled : (Call.latest? Call.discovery? s.calls).getD true = true :=
    s.accumulates.discovery.symm.trans s.discovery_eq
  rw [hdiscovered, Call.mem_map_id_classesFor_discovered,
    Call.mem_map_id_found_iff henabled hopen]
  constructor
  · rintro ⟨⟨hregistered, hloader, hasked⟩, hnamed⟩
    exact ⟨hregistered, hloader, hnamed, hasked⟩
  · rintro ⟨hregistered, hloader, hnamed, hasked⟩
    exact ⟨⟨hregistered, hloader, hasked⟩, hnamed⟩

lemma nodup_map_id_discovered (s : IndexedStart) : (s.discovered.map ClassRef.id).Nodup := by
  obtain ⟨managed, isClosed, -, -, hdiscovered⟩ := s.exists_discovered_eq
  rw [hdiscovered]
  exact Call.nodup_map_id_classesFor_discovered _ _

lemma loader_model (s : IndexedStart) : s.model.loader = s.loader := by
  obtain ⟨managed, isClosed, -, hloader, -⟩ := s.exists_discovered_eq
  exact hloader

end IndexedStart

/-- A start that searches an index discovers exactly the classes that were registered there, belong
to its loader and are not named, and that some registration puts into an archive or some request
contains by itself. It discovers each of them once. So another start with the same loader,
registrations, requests and names discovers the same classes, however often and in which order they
came. -/
theorem discovered_of_indexedStart (s : IndexedStart) :
    s.model.loader = s.loader ∧
    (∀ c : ClassRef, c.id ∈ s.discovered.map ClassRef.id ↔
      c.id ∈ s.registered.map IndexedClass.id ∧ c.loader = s.loader ∧
      c.id ∉ s.named.map ClassRef.id ∧
      ((∃ e ∈ s.registered, e.id = c.id ∧ e.archived = true) ∨
        ∃ p ∈ s.requests, p.contains c = true)) ∧
    (s.discovered.map ClassRef.id).Nodup ∧
    ∀ t : IndexedStart, s.loader = t.loader →
      (∀ e, e ∈ s.registered ↔ e ∈ t.registered) → (∀ p, p ∈ s.requests ↔ p ∈ t.requests) →
      (∀ k, k ∈ s.named.map ClassRef.id ↔ k ∈ t.named.map ClassRef.id) →
      (s.discovered.map ClassRef.id).Perm (t.discovered.map ClassRef.id) := by
  refine ⟨s.loader_model, s.mem_discovered_iff, s.nodup_map_id_discovered, ?_⟩
  intro t hloader hregistered hrequests hnamed
  rw [List.perm_ext_iff_of_nodup s.nodup_map_id_discovered t.nodup_map_id_discovered]
  intro k
  have hids : k ∈ s.registered.map IndexedClass.id ↔ k ∈ t.registered.map IndexedClass.id := by
    simp only [List.mem_map, hregistered]
  rw [s.mem_discovered_iff ⟨k, {}⟩, t.mem_discovered_iff ⟨k, {}⟩, hids, hloader, hnamed]
  simp only [hregistered, hrequests]

/-- A builder that asks for a package with and without what lies below it, and names a class. Its
index has classes in the package, below it, beside it and in an archive. -/
def overlappingSearch : List Step :=
  [.registerClass 0 ⟨⟨⟨"app::Order", .system⟩, {}⟩, false⟩,
    .registerClass 0 ⟨⟨⟨"app::audit::Entry", .system⟩, {}⟩, false⟩,
    .registerClass 0 ⟨⟨⟨"apple::Pie", .system⟩, {}⟩, false⟩,
    .registerClass 0 ⟨⟨⟨"lib::Clock", .system⟩, {}⟩, true⟩,
    .call 0 (.addPackages true [⟨⟨"app::Order", .system⟩, {}⟩]),
    .call 0 (.addPackages false [⟨⟨"app::Order", .system⟩, {}⟩]),
    .call 0 (.addBeanClasses [⟨⟨"app::Order", .system⟩, {}⟩])]

/-- The same in another order, and more than once. -/
def repeatedSearch : List Step :=
  [.call 0 (.addBeanClasses [⟨⟨"app::Order", .system⟩, {}⟩]),
    .call 0 (.addPackages false [⟨⟨"app::Order", .system⟩, {}⟩]),
    .registerClass 0 ⟨⟨⟨"lib::Clock", .system⟩, {}⟩, true⟩,
    .registerClass 0 ⟨⟨⟨"app::audit::Entry", .system⟩, {}⟩, false⟩,
    .registerClass 0 ⟨⟨⟨"app::Order", .system⟩, {}⟩, false⟩,
    .call 0 (.addPackages true [⟨⟨"app::Order", .system⟩, {}⟩, ⟨⟨"app::Stock", .system⟩, {}⟩]),
    .registerClass 0 ⟨⟨⟨"apple::Pie", .system⟩, {}⟩, false⟩,
    .registerClass 0 ⟨⟨⟨"lib::Clock", .system⟩, {}⟩, true⟩]

theorem discovered_of_indexedStart_overlappingSearch :
    ∃ s t : IndexedStart, s.after = overlappingSearch ∧ t.after = repeatedSearch ∧
      ⟨"app::audit::Entry", .system⟩ ∈ s.discovered.map ClassRef.id ∧
      ⟨"lib::Clock", .system⟩ ∈ s.discovered.map ClassRef.id ∧
      ⟨"apple::Pie", .system⟩ ∉ s.discovered.map ClassRef.id ∧
      ⟨"app::Order", .system⟩ ∉ s.discovered.map ClassRef.id ∧
      (s.discovered.map ClassRef.id).Perm (t.discovered.map ClassRef.id) := by
  obtain ⟨s, hs, hsr, hsp, hsn, hsl⟩ : ∃ s : IndexedStart, s.after = overlappingSearch ∧
      s.registered = [⟨⟨⟨"app::Order", .system⟩, {}⟩, false⟩,
        ⟨⟨⟨"app::audit::Entry", .system⟩, {}⟩, false⟩, ⟨⟨⟨"apple::Pie", .system⟩, {}⟩, false⟩,
        ⟨⟨⟨"lib::Clock", .system⟩, {}⟩, true⟩] ∧
      s.requests = [⟨"app", true⟩, ⟨"app", false⟩] ∧
      s.named = [⟨⟨"app::Order", .system⟩, {}⟩] ∧ s.loader = .system := by
    exact ⟨⟨[], .newBuilder, overlappingSearch, 0, ∅, _, _, _, rfl, rfl, rfl, rfl, .inl rfl, rfl⟩,
      rfl, rfl, rfl, rfl, rfl⟩
  obtain ⟨t, ht, htr, htp, htn, htl⟩ : ∃ t : IndexedStart, t.after = repeatedSearch ∧
      t.registered = [⟨⟨⟨"lib::Clock", .system⟩, {}⟩, true⟩,
        ⟨⟨⟨"app::audit::Entry", .system⟩, {}⟩, false⟩, ⟨⟨⟨"app::Order", .system⟩, {}⟩, false⟩,
        ⟨⟨⟨"apple::Pie", .system⟩, {}⟩, false⟩, ⟨⟨⟨"lib::Clock", .system⟩, {}⟩, true⟩] ∧
      t.requests = [⟨"app", false⟩, ⟨"app", true⟩, ⟨"app", true⟩] ∧
      t.named = [⟨⟨"app::Order", .system⟩, {}⟩] ∧ t.loader = .system := by
    exact ⟨⟨[], .newBuilder, repeatedSearch, 0, ∅, _, _, _, rfl, rfl, rfl, rfl, .inl rfl, rfl⟩,
      rfl, rfl, rfl, rfl, rfl⟩
  obtain ⟨-, hmem, -, hperm⟩ := discovered_of_indexedStart s
  have hsame := hperm t (hsl.trans htl.symm)
  rw [hsr, hsp, hsn, hsl] at hmem
  refine ⟨s, t, hs, ht, ?_, ?_, ?_, ?_, hsame ?_ ?_ ?_⟩
  · exact (hmem ⟨⟨"app::audit::Entry", .system⟩, {}⟩).2
      ⟨by decide, rfl, by decide, .inr ⟨⟨"app", true⟩, by decide, by decide⟩⟩
  · exact (hmem ⟨⟨"lib::Clock", .system⟩, {}⟩).2
      ⟨by decide, rfl, by decide, .inl ⟨⟨⟨⟨"lib::Clock", .system⟩, {}⟩, true⟩, by decide, rfl, rfl⟩⟩
  · intro h
    obtain ⟨-, -, -, hasked⟩ := (hmem ⟨⟨"apple::Pie", .system⟩, {}⟩).1 h
    revert hasked
    decide
  · intro h
    obtain ⟨-, -, hnamed, -⟩ := (hmem ⟨⟨"app::Order", .system⟩, {}⟩).1 h
    exact hnamed (by decide)
  · intro e
    rw [hsr, htr]
    grind
  · intro p
    rw [hsp, htp]
    grind
  · intro k
    rw [hsn, htn]

end BeanContainer
