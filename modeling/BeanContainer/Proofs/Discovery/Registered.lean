import BeanContainer.Lifecycle.World
import BeanContainer.Proofs.Discovery.Indexed
import Mathlib.Data.List.Basic
/-!
# What an index answers

An index that was opened empty answers every scan at once, with classes out of everything that has
been registered there (`Environment.reply_registerAll`). Each of them stands where it was registered
first, by the reference of that registration; whether it belongs to an archive is the only thing
that a later registration can change, and only one way. So answers never shrink, and the classes in
them depend neither on the order of the registrations nor on their number.
-/

namespace BeanContainer

namespace Environment

/-- Register classes one after the other. -/
def registerAll (env : Environment) (es : List IndexedClass) : Environment :=
  es.foldl (fun env e => env.register e) env

lemma registerAll_indexed (managed : Bool) (index : ClassIndex) (es : List IndexedClass) :
    (indexed managed index).registerAll es = indexed managed (es.foldl .register index) := by
  induction es generalizing index with
  | nil => rfl
  | cons e es ih => exact ih (index.register e)

end Environment

namespace ClassIndex

/-- Every class is found once. -/
lemma nodup_map_id_find (es : List IndexedClass) (loader : Loader) (scan : Scan) :
    (((ofRegistrations es).find loader scan).map ClassRef.id).Nodup := by
  rw [find_eq]
  exact (List.filter_sublist.map ClassRef.id).nodup (Keyed.nodup_map_firsts _)

/-- Classes are found by the reference that was registered first. -/
lemma find?_reference_of_mem_find {es : List IndexedClass} {loader : Loader} {scan : Scan}
    {c : ClassRef} (h : c ∈ (ofRegistrations es).find loader scan) :
    (es.map IndexedClass.reference).find? (fun c' => c'.id = c.id) = some c := by
  rw [find_eq] at h
  have hc : c ∈ (Keyed.firsts ClassRef.id (es.map IndexedClass.reference)).filter
      fun c' => c'.id = c.id := List.mem_filter.2 ⟨(List.mem_filter.1 h).1, decide_eq_true rfl⟩
  rw [Keyed.filter_eq_toList_find? (Keyed.nodup_map_firsts _), Keyed.find?_firsts] at hc
  exact Option.mem_toList.1 hc

/-- More registrations add classes to what is found, and leave those that were found in their
order. -/
lemma find_sublist_append (es more : List IndexedClass) (loader : Loader) (scan : Scan) :
    ((ofRegistrations es).find loader scan).Sublist
      ((ofRegistrations (es ++ more)).find loader scan) := by
  rw [find_eq, find_eq, List.map_append, Keyed.firsts_append, List.filter_append]
  refine .trans (List.monotone_filter_right _ fun c hc => ?_) (List.sublist_append_left _ _)
  obtain ⟨hloader, hasks⟩ := of_decide_eq_true hc
  exact decide_eq_true ⟨hloader, Scan.asksFor_of_subset (List.subset_append_left _ _) hasks⟩

lemma map_id_find_subset {es es' : List IndexedClass} (h : es ⊆ es') (loader : Loader)
    (scan : Scan) :
    ((ofRegistrations es).find loader scan).map ClassRef.id ⊆
      ((ofRegistrations es').find loader scan).map ClassRef.id := by
  intro k hk
  obtain ⟨hregistered, hloader, hasks⟩ := (mem_map_id_find_iff (c := ⟨k, {}⟩)).1 hk
  exact (mem_map_id_find_iff (c := ⟨k, {}⟩)).2
    ⟨List.map_subset _ h hregistered, hloader, Scan.asksFor_of_subset h hasks⟩

end ClassIndex

/-- An index that was opened empty answers a scan with exactly the registered classes of the loader
that the scan asks for: those that a requested package contains, or those of which any registration
says that they are in an archive. They are listed once each, in the order of their first
registrations and by the references of these. Other registrations that are the same but for order
and number lead to the same classes, and further ones take no class away and change the order of
none. -/
theorem Environment.reply_registerAll (managed : Bool) (loader : Loader) (scan : Scan)
    (es : List IndexedClass) :
    let answer := fun es => ((indexed managed []).registerAll es).host.reply loader scan
    let found := fun es => (Keyed.firsts ClassRef.id (es.map IndexedClass.reference)).filter
      fun c => decide (c.loader = loader ∧ scan.asksFor es c)
    (∀ es', answer es' = .after 0 (.ok (found es'))) ∧
    (∀ c : ClassRef, c.id ∈ (found es).map ClassRef.id ↔
      c.id ∈ es.map IndexedClass.id ∧ c.loader = loader ∧ scan.asksFor es c) ∧
    ((found es).map ClassRef.id).Nodup ∧
    (∀ c ∈ found es,
      (es.map IndexedClass.reference).find? (fun c' => c'.id = c.id) = some c) ∧
    (∀ es', (∀ e, e ∈ es' ↔ e ∈ es) →
      ((found es').map ClassRef.id).Perm ((found es).map ClassRef.id)) ∧
    (∀ es', es ⊆ es' → (found es).map ClassRef.id ⊆ (found es').map ClassRef.id) ∧
    ∀ more, (found es).Sublist (found (es ++ more)) := by
  intro answer found
  have hfind : ∀ es, found es = (ClassIndex.ofRegistrations es).find loader scan :=
    fun es => (ClassIndex.find_eq es loader scan).symm
  have hanswer : ∀ es, answer es = .after 0 (.ok (found es)) := by
    intro es
    show ((indexed managed []).registerAll es).host.reply loader scan = _
    rw [registerAll_indexed, hfind]
    rfl
  refine ⟨hanswer, ?_⟩
  simp only [hfind]
  refine ⟨fun c => ClassIndex.mem_map_id_find_iff, ClassIndex.nodup_map_id_find es loader scan,
    fun c hc => ClassIndex.find?_reference_of_mem_find hc, ?_,
    fun es' h => ClassIndex.map_id_find_subset h loader scan,
    fun more => ClassIndex.find_sublist_append es more loader scan⟩
  intro es' hsame
  rw [List.perm_ext_iff_of_nodup (ClassIndex.nodup_map_id_find es' loader scan)
    (ClassIndex.nodup_map_id_find es loader scan)]
  intro k
  exact ⟨fun hk => ClassIndex.map_id_find_subset (fun e => (hsame e).1) loader scan hk,
    fun hk => ClassIndex.map_id_find_subset (fun e => (hsame e).2) loader scan hk⟩

/-- Registrations of three classes, two of which are namesakes. One class is registered three times,
with different markers, and the second time as one of an archive. -/
def reregistered : List IndexedClass :=
  [⟨⟨⟨"app::Order", .system⟩, {}⟩, false⟩,
    ⟨⟨⟨"app::Order", .system⟩, { alternative := true }⟩, true⟩,
    ⟨⟨⟨"app::Order", ⟨1, "other"⟩⟩, {}⟩, true⟩, ⟨⟨⟨"lib::Clock", .system⟩, {}⟩, true⟩,
    ⟨⟨⟨"app::Order", .system⟩, { alternative := true }⟩, false⟩]

theorem Environment.reply_registerAll_reregistered :
    (∀ e, e ∈ reregistered.reverse ↔ e ∈ reregistered) ∧
      ∃ found found' : List ClassRef,
        found = [⟨⟨"app::Order", .system⟩, {}⟩, ⟨⟨"lib::Clock", .system⟩, {}⟩] ∧
        found' =
          [⟨⟨"app::Order", .system⟩, { alternative := true }⟩, ⟨⟨"lib::Clock", .system⟩, {}⟩] ∧
        ((indexed false []).registerAll reregistered).host.reply .system .archives =
          .after 0 (.ok found) ∧
        ((indexed false []).registerAll reregistered.reverse).host.reply .system .archives =
          .after 0 (.ok found') ∧
        (found'.map ClassRef.id).Perm (found.map ClassRef.id) := by
  obtain ⟨hanswer, -, -, -, hperm, -⟩ := reply_registerAll false .system .archives reregistered
  have hsame : ∀ e, e ∈ reregistered.reverse ↔ e ∈ reregistered := fun _ => List.mem_reverse
  exact ⟨hsame, _, _, rfl, rfl, hanswer _, hanswer _, hperm _ hsame⟩

end BeanContainer
