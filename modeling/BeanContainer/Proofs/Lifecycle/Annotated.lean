import BeanContainer.Proofs.Deployment.Indexing
import BeanContainer.Proofs.Lifecycle.Deployed
/-!
# What overrides make of a class

Calls on a builder ask for edits of annotations, now of one class and now of another. Together they
are a log (`Call.editLog`). A container has one source for every class that is overridden, and its
annotations are those that the edits of the log leave that are aimed at this class, replayed in the
order of the log. Classes are told apart by name and loader, so the edits of one never reach
another.
-/

namespace BeanContainer

/-! ### The log -/

namespace Call

/-- The edits that calls ask for, each with the class that it is aimed at, in order. -/
def editLog (calls : List Call) : List (ClassId × Edit) :=
  (calls.flatMap overrides).flatMap fun o => o.edits.map (o.target.id, ·)

/-- The classes that calls override, with or without edits. -/
def targets (calls : List Call) : List ClassId :=
  (calls.flatMap overrides).map fun o => o.target.id

/-- The edits of a log that are aimed at a class. -/
def editsAt (k : ClassId) (log : List (ClassId × Edit)) : List Edit :=
  (log.filter fun e => e.1 = k).map Prod.snd

lemma editsAt_flatMap (k : ClassId) (os : List TypeOverride) :
    editsAt k (os.flatMap fun o => o.edits.map (o.target.id, ·)) =
      (os.filter fun o => o.target.id = k).flatMap TypeOverride.edits := by
  induction os with
  | nil => rfl
  | cons o os ih =>
    have happend : ∀ xs ys, editsAt k (xs ++ ys) = editsAt k xs ++ editsAt k ys := fun xs ys => by
      simp [editsAt]
    rw [List.flatMap_cons, happend, ih, editsAt, List.filter_map, List.map_map]
    by_cases hk : o.target.id = k
    · simp [hk, Function.comp_def]
    · simp [hk, Function.comp_def]

/-- The annotations of a class are what its part of the log leaves. -/
lemma metadata_eq (calls : List Call) (c : ClassRef) :
    metadata calls c = if c.id ∈ targets calls then
      some (({} : TypeMetadata).replay (editsAt c.id (editLog calls))) else none := by
  have hmem : ((calls.flatMap overrides).filter fun o => o.target.id = c.id).isEmpty = true ↔
      c.id ∉ targets calls := by
    simp [targets]
  rw [metadata, editLog, editsAt_flatMap]
  by_cases hc : c.id ∈ targets calls
  · rw [if_pos hc, if_neg (mt hmem.1 (not_not_intro hc))]
  · rw [if_neg hc, if_pos (hmem.2 hc)]

end Call

/-! ### The sources of a class -/

namespace Source

/-- Whether a source is that of a class. -/
def isOf (k : ClassId) (s : Source) : Bool := s.class?.any fun c => c.id = k

/-- A class that occurs among distinct ones has one source. -/
lemma exists_filter_isOf {sources : List Source}
    (hn : ((sources.filterMap class?).map ClassRef.id).Nodup) {k : ClassId}
    (hk : k ∈ (sources.filterMap class?).map ClassRef.id) :
    ∃ c origin m, c.id = k ∧ sources.filter (isOf k) = [.ofClass c origin m] := by
  induction sources with
  | nil => cases hk
  | cons s sources ih =>
    cases s with
    | ofBean b => exact ih hn hk
    | ofClass c origin m =>
      have hcons : (Source.ofClass c origin m :: sources).filterMap class? =
          c :: sources.filterMap class? := rfl
      rw [hcons, List.map_cons] at hn hk
      obtain ⟨hc, hn⟩ := List.nodup_cons.1 hn
      by_cases hck : c.id = k
      · have hnone : sources.filter (isOf k) = [] := by
          refine List.filter_eq_nil_iff.2 fun s hs hsk => hc ?_
          obtain ⟨c', hc', e⟩ := (Option.any_eq_true _ _).1 hsk
          rw [hck, ← of_decide_eq_true e]
          exact List.mem_map_of_mem (List.mem_filterMap.2 ⟨s, hs, hc'⟩)
        exact ⟨c, origin, m, hck, by simp [isOf, class?, hck, hnone]⟩
      · rw [List.mem_cons] at hk
        obtain ⟨c', origin', m', hk', hfilter⟩ := ih hn (hk.resolve_left (Ne.symm hck))
        exact ⟨c', origin', m', hk', by simp [isOf, class?, hck, hfilter]⟩

end Source

namespace Call

/-- The annotations of a class source are those that overrides give to its class. -/
lemma metadata_of_mem_sources {calls : List Call} {builder : Nat} {found : List ClassRef}
    {c : ClassRef} {origin : Origin} {m : Option TypeMetadata}
    (h : .ofClass c origin m ∈ sources calls builder found) : m = metadata calls c := by
  simp only [sources, List.mem_append, List.mem_map, Source.ofClass.injEq, reduceCtorEq, and_false,
    exists_false, or_false] at h
  rcases h with (⟨_, _, rfl, _, rfl⟩ | ⟨_, _, rfl, _, rfl⟩) | ⟨_, _, rfl, _, rfl⟩ <;> rfl

/-- A class that is overridden has one source, with what its part of the log leaves. -/
lemma exists_filter_isOf_sources {calls : List Call} {k : ClassId} (hk : k ∈ targets calls)
    (builder : Nat) (found : List ClassRef) :
    ∃ c origin, c.id = k ∧ (sources calls builder found).filter (Source.isOf k) =
      [.ofClass c origin (some (({} : TypeMetadata).replay (editsAt k (editLog calls))))] := by
  have hclasses := filterMap_class?_sources calls builder found
  have hn : (((sources calls builder found).filterMap Source.class?).map ClassRef.id).Nodup := by
    rw [hclasses]
    exact Keyed.nodup_map_firsts _
  have hmem : k ∈ ((sources calls builder found).filterMap Source.class?).map ClassRef.id := by
    rw [hclasses, Keyed.mem_map_firsts, List.map_append, List.mem_append]
    exact .inr (by simpa [targets] using hk)
  obtain ⟨c, origin, m, rfl, hfilter⟩ := Source.exists_filter_isOf hn hmem
  have hs : .ofClass c origin m ∈ (sources calls builder found).filter (Source.isOf c.id) := by
    rw [hfilter]
    exact List.mem_singleton_self _
  have hm := metadata_of_mem_sources (List.mem_filter.1 hs).1
  rw [metadata_eq, if_pos hk] at hm
  exact ⟨c, origin, rfl, by rw [hfilter, hm]⟩

end Call

namespace Deployment

/-- The class sources are the sources that are none of beans. -/
lemma filter_class?_sources (d : Deployment) (builder : Nat) (found : List ClassRef) :
    (d.sources builder found).filter (fun s => s.class?.isSome) = d.classSources found := by
  have hclasses : ∀ s ∈ d.classSources found, s.class?.isSome = true := by
    intro s hs
    obtain ⟨m, -, rfl⟩ := List.mem_map.1 hs
    rfl
  have hbeans : ∀ s ∈ (d.builtBeans builder).map Source.ofBean, ¬ s.class?.isSome = true := by
    intro s hs
    obtain ⟨b, -, rfl⟩ := List.mem_map.1 hs
    nofun
  rw [sources, List.filter_append, List.filter_eq_self.2 hclasses,
    List.filter_eq_nil_iff.2 hbeans, List.append_nil]

end Deployment

/-- A container that is started has one source for every class that is overridden, with the
annotations that the edits aimed at this class leave, replayed in order from none. A class that is
not overridden has no annotations. And where overrides are merged and written to their classes by
way of indexes, no index ever misses, and the class sources are the same. -/
theorem annotations_of_start {before : List Step} {b : Nat} {params : Properties} {d : Deployment}
    {w : World} {model : Model}
    (hd : (({} : World).run before).1.stage b = .configuring d)
    (hm : ((({} : World).run before).1.host d.environment).managed = false)
    (hw : (({} : World).run before).1.InProgress b params w)
    (hr : (w.poll b params).2 = .ready (.ok model)) :
    let w₀ := (({} : World).run before).1
    let calls := acceptedCalls b before (({} : World).run before).2
    let log := Call.editLog calls
    (∀ k ∈ Call.targets calls, ∃ c origin, c.id = k ∧ model.sources.filter (Source.isOf k) =
      [.ofClass c origin (some (({} : TypeMetadata).replay (Call.editsAt k log)))]) ∧
    (∀ c origin m, .ofClass c origin m ∈ model.sources → c.id ∉ Call.targets calls → m = none) ∧
    d.indexedClassSources? (Call.found calls (w₀.host d.environment) w₀.isClosed) =
      some (model.sources.filter fun s => s.class?.isSome) := by
  intro w₀ calls log
  have h : d.Accumulates calls := World.accumulates_run hd
  set found := Call.found calls (w₀.host d.environment) w₀.isClosed
  obtain ⟨asked, hfin⟩ := hw.progress?_of_ready hd hm hr
  have hsources : model.sources = Call.sources calls b found := by
    rw [World.model_of_finished hfin hr]
    exact World.sources_startOf h params b
  rw [hsources]
  refine ⟨?_, ?_, ?_⟩
  · intro k hk
    exact Call.exists_filter_isOf_sources hk b found
  · intro c origin m hc hk
    rw [Call.metadata_of_mem_sources hc, Call.metadata_eq, if_neg hk]
  · rw [d.indexedClassSources?_eq, ← h.sources_eq, d.filter_class?_sources]

/-- A builder that overrides a class of each of two loaders in turns. The classes have one name. The
host finds the first of them in an archive, after one poll in vain. -/
def namesakesStart : List Step :=
  [.addEnvironment
      (.hosted { reply := fun _ _ => .after 1 (.ok [⟨⟨"app::Order", .system⟩, {}⟩]) }),
    .newBuilder, .openLoader "plugin", .call 0 (.setEnvironment 0),
    .call 0 (.configureType ⟨⟨"app::Order", .system⟩, {}⟩
      [.add .type { name := "Entity" }, .add .type { name := "Cached" }]),
    .call 0 (.addOverrides
      [⟨⟨⟨"app::Order", ⟨1, "plugin"⟩⟩, {}⟩, [.removeAll .type]⟩,
        ⟨⟨⟨"app::Stock", .system⟩, {}⟩, []⟩]),
    .call 0 (.configureType ⟨⟨"app::Order", .system⟩, {}⟩ [.remove .type "Entity"])]

theorem annotations_of_start_namesakesStart :
    ∃ d w model, (({} : World).run namesakesStart).1.stage 0 = .configuring d ∧
      ((({} : World).run namesakesStart).1.host d.environment).managed = false ∧
      (({} : World).run namesakesStart).1.InProgress 0 ∅ w ∧
      (w.poll 0 ∅).2 = .ready (.ok model) ∧
      (∃ c origin, c.id = ⟨"app::Order", .system⟩ ∧
        model.sources.filter (Source.isOf ⟨"app::Order", .system⟩) =
          [.ofClass c origin (some (({} : TypeMetadata).replay
            [.add .type { name := "Entity" }, .add .type { name := "Cached" },
              .remove .type "Entity"]))]) ∧
      ∃ c origin, c.id = ⟨"app::Stock", .system⟩ ∧
        model.sources.filter (Source.isOf ⟨"app::Stock", .system⟩) =
          [.ofClass c origin (some {})] := by
  have hd : (({} : World).run namesakesStart).1.stage 0 = .configuring _ := rfl
  have hw : (({} : World).run namesakesStart).1.InProgress 0 ∅
      ((({} : World).run namesakesStart).1.run [.poll 0 ∅]).1 := .inr ⟨[], _, _, rfl, rfl⟩
  obtain ⟨hone, -, -⟩ := annotations_of_start hd rfl hw rfl
  exact ⟨_, _, _, hd, rfl, hw, rfl, hone ⟨"app::Order", .system⟩ (by decide),
    hone ⟨"app::Stock", .system⟩ (by decide)⟩

end BeanContainer
