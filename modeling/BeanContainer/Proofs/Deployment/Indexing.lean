import BeanContainer.Deployment.Source
import BeanContainer.Proofs.Keyed.Table
/-!
# Class sources by way of indexes

The class sources of a deployment can be put together in place. Overrides are merged into the one
that an index has for their class; then the classes that are mentioned are listed with an index of
their own, and each merged override writes its annotations where that index has its class.

`Deployment.indexedClassSources?` does this and fails as soon as an index misses, or has an entry of
another class. It never fails, and yields the class sources of the deployment
(`Deployment.indexedClassSources?_eq`).
-/

namespace BeanContainer

namespace TypeOverride

/-- Merge overrides by way of an index of their classes. -/
def mergeIndexed? (os : List TypeOverride) : Option (List TypeOverride) :=
  (Keyed.Table.ofList? (fun o => o.target.id) append os).map Keyed.Table.entries

lemma targetId_append (older newer : TypeOverride) :
    (older.append newer).target.id = older.target.id := rfl

lemma mergeIndexed?_eq (os : List TypeOverride) : mergeIndexed? os = some (merge os) := by
  have htable : ∃ t, Keyed.Table.ofList? (fun o => o.target.id) append os = some t ∧
      t.IsExact (fun o => o.target.id) ∧ t.entries = merge os :=
    Keyed.Table.exists_ofList? targetId_append os
  obtain ⟨t, ht, -, hentries⟩ := htable
  rw [mergeIndexed?, ht, Option.map_some, hentries]

lemma nodup_map_target_merge (os : List TypeOverride) :
    ((merge os).map fun o => o.target.id).Nodup :=
  Keyed.nodup_map_key_putAll (fun o o' _ => targetId_append o o') os List.nodup_nil

end TypeOverride

namespace Source

/-- A class that no override has given annotations yet. -/
def unannotated (c : ClassRef) (origin : Origin) : Source := .ofClass c origin none

/-- Give a class its annotations. -/
def annotate (m : TypeMetadata) : Source → Source
  | .ofClass c origin _ => .ofClass c origin (some m)
  | .ofBean b => .ofBean b

/-- What class sources are indexed by. -/
def classId (s : Source) : ClassId := s.implementation.id

@[simp] lemma classId_ofClass (c : ClassRef) (origin : Origin) (m : Option TypeMetadata) :
    (Source.ofClass c origin m).classId = c.id := rfl

@[simp] lemma classId_annotate (m : TypeMetadata) (s : Source) :
    (s.annotate m).classId = s.classId := by
  cases s <;> rfl

/-- Of overrides of distinct classes, only that of the class itself concerns a class. -/
lemma foldl_annotate {os : List TypeOverride} (hn : (os.map fun o => o.target.id).Nodup)
    (c : ClassRef) (origin : Origin) (m : Option TypeMetadata) :
    os.foldl (fun (s : Source) o => if s.classId = o.target.id then s.annotate o.metadata else s)
        (.ofClass c origin m) =
      .ofClass c origin (((os.find? fun o => o.target == c).map TypeOverride.metadata).or m) := by
  induction os generalizing m with
  | nil => rfl
  | cons o os ih =>
    rw [List.map_cons, List.nodup_cons] at hn
    rw [List.foldl_cons, List.find?_cons, classId_ofClass]
    by_cases hc : c.id = o.target.id
    · have hnone : os.find? (fun o => o.target == c) = none := by
        refine List.find?_eq_none.2 fun o' ho' e => hn.1 ?_
        rw [← hc, ← ClassRef.beq_iff.1 e]
        exact List.mem_map_of_mem ho'
      rw [if_pos hc, ClassRef.beq_iff.2 hc.symm, annotate, ih hn.2, hnone]
      rfl
    · have hne : (o.target == c) = false := by
        rw [Bool.eq_false_iff]
        exact fun e => hc (ClassRef.beq_iff.1 e).symm
      rw [if_neg hc, hne, ih hn.2]

end Source

namespace Deployment

/-- Put the class sources together by way of indexes, given what scans found. -/
def indexedClassSources? (d : Deployment) (found : List ClassRef) : Option (List Source) := do
  let overrides ← TypeOverride.mergeIndexed? d.overrides
  let classes ← Keyed.Table.ofList? Source.classId Keyed.first
    (d.beanClasses.toList.map (Source.unannotated · .synthetic) ++
      found.map (Source.unannotated · .discovered) ++
      overrides.map fun o => Source.unannotated o.target .override)
  let annotated ← overrides.foldlM
    (fun t o => t.modify? Source.classId o.target.id (Source.annotate o.metadata)) classes
  return annotated.entries

/-- Every class that is overridden is mentioned. -/
lemma target_mem_mentions {d : Deployment} {o : TypeOverride} (ho : o ∈ d.mergedOverrides)
    (found : List ClassRef) : o.target.id ∈ (d.mentions found).map fun m => m.1.id := by
  rw [mentions, List.map_append, List.mem_append]
  refine .inr ?_
  rw [List.map_map]
  exact List.mem_map_of_mem ho

/-- Every merged override finds the source of its class, and the sources come out as they would
without indexes. -/
theorem indexedClassSources?_eq (d : Deployment) (found : List ClassRef) :
    d.indexedClassSources? found = some (d.classSources found) := by
  set mentioned := d.mentions found with hmentioned
  have hclasses : d.beanClasses.toList.map (Source.unannotated · .synthetic) ++
      found.map (Source.unannotated · .discovered) ++
      d.mergedOverrides.map (fun o => Source.unannotated o.target .override) =
      mentioned.map fun m => Source.unannotated m.1 m.2 := by
    simp only [hmentioned, mentions, List.map_append, List.map_map, Function.comp_def]
  have hfirst : ∀ s s' : Source, (Keyed.first s s').classId = s.classId := fun _ _ => rfl
  obtain ⟨t, ht, hexact, hentries⟩ := Keyed.Table.exists_ofList? hfirst
    (mentioned.map fun m => Source.unannotated m.1 m.2)
  have hkeep : t.entries = (Keyed.firsts (fun m => m.1.id) mentioned).map fun m =>
      Source.unannotated m.1 m.2 := by
    rw [hentries, Keyed.gather_first, Keyed.firsts_map]
    rfl
  have hkeys : ∀ o ∈ d.mergedOverrides, o.target.id ∈ t.entries.map Source.classId := by
    intro o ho
    rw [hkeep, List.map_map]
    exact Keyed.mem_map_firsts.2 (target_mem_mentions ho found)
  obtain ⟨t', hfold, ht'⟩ := hexact.exists_foldlM_modify? (fun o : TypeOverride => o.target.id)
    (fun o => Source.annotate o.metadata) (fun o => Source.classId_annotate o.metadata) hkeys
  have hsources : t'.entries = d.classSources found := by
    have hn : (d.mergedOverrides.map fun o => o.target.id).Nodup :=
      TypeOverride.nodup_map_target_merge d.overrides
    rw [ht', hkeep, List.map_map, classSources, Keyed.gather_first]
    refine List.map_congr_left fun m _ => ?_
    rw [Function.comp_apply, Source.unannotated, Source.foldl_annotate hn, Option.or_none]
    rfl
  have hmerge : TypeOverride.mergeIndexed? d.overrides = some d.mergedOverrides :=
    TypeOverride.mergeIndexed?_eq d.overrides
  simp only [indexedClassSources?, hmerge, Option.bind_eq_bind, Option.bind_some, hclasses, ht,
    hfold, hsources]
  rfl

end Deployment

end BeanContainer
