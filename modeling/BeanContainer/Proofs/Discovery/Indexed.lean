import BeanContainer.Proofs.Deployment.Expectation
/-!
# What scans of an index find

Requests for one package are merged before they are scanned, and registrations of one class are
merged in the index. Neither makes a difference: the classes found are those that were registered
and that some request contains, or some registration puts into an archive
(`Call.mem_map_id_found_iff`).
-/

namespace BeanContainer

/-! ### Requests -/

namespace PackageRef

/-- Whether a request contains a class depends on the name of the class alone. -/
lemma contains_congr {c c' : ClassRef} (h : c.id = c'.id) (p : PackageRef) :
    p.contains c = p.contains c' := by
  simp only [contains, ClassRef.package, ClassRef.name, h]

/-- A request contains at least what a request for the same package contains, if it is recursive
whenever that one is. -/
lemma contains_of_name_eq {p q : PackageRef} {c : ClassRef} (hname : p.name = q.name)
    (hrecursive : q.recursive = true → p.recursive = true) (h : q.contains c = true) :
    p.contains c = true := by
  simp only [contains, covers, Bool.or_eq_true, Bool.and_eq_true] at h ⊢
  rw [hname]
  rcases h with h | ⟨hr, h⟩
  · exact .inl h
  · exact .inr ⟨hrecursive hr, h⟩

end PackageRef

namespace Call

variable {calls : List Call}

/-- Merged requests contain what the single ones contain. -/
lemma exists_contains_packages_iff {c : ClassRef} :
    (∃ p ∈ packages calls, p.contains c = true) ↔
      ∃ q ∈ calls.flatMap requested, q.contains c = true := by
  set requests := calls.flatMap requested with hrequests
  constructor
  · rintro ⟨p, hp, hc⟩
    obtain ⟨q, hq, hqp⟩ := List.mem_map.1 hp
    have hname : p.name = q.name := by rw [← hqp]
    have hrecursive : p.recursive =
        requests.any fun q' => q'.name = q.name && q'.recursive := by rw [← hqp]
    cases hr : p.recursive with
    | true =>
      -- some single request says so
      obtain ⟨q', hq', e⟩ := List.any_eq_true.1 (hrecursive.symm.trans hr)
      rw [Bool.and_eq_true, decide_eq_true_eq] at e
      exact ⟨q', hq', PackageRef.contains_of_name_eq (e.1.trans hname.symm) (fun _ => e.2) hc⟩
    | false =>
      have hmem : p.name ∈ requests.map PackageRef.name := by
        rw [hname]
        exact Keyed.mem_map_firsts.1 (List.mem_map_of_mem hq)
      obtain ⟨q', hq', e⟩ := List.mem_map.1 hmem
      refine ⟨q', hq', PackageRef.contains_of_name_eq e (fun h => ?_) hc⟩
      cases hr.symm.trans h
  · rintro ⟨q, hq, hc⟩
    have hname : q.name ∈ (Keyed.firsts PackageRef.name requests).map PackageRef.name :=
      Keyed.mem_map_firsts.2 (List.mem_map_of_mem hq)
    obtain ⟨q', hq', e⟩ := List.mem_map.1 hname
    refine ⟨_, List.mem_map_of_mem hq', PackageRef.contains_of_name_eq e (fun hr => ?_) hc⟩
    exact List.any_eq_true.2 ⟨q, hq, by simp [e, hr]⟩

end Call

/-! ### Registered classes -/

/-- Whether a scan asks for a class, given everything that has been registered. -/
def Scan.asksFor (registered : List IndexedClass) (c : ClassRef) : Scan → Prop
  | .package request => request.contains c = true
  | .archives => ∃ e ∈ registered, e.id = c.id ∧ e.archived = true

namespace Scan

instance (registered : List IndexedClass) (c : ClassRef) :
    (scan : Scan) → Decidable (scan.asksFor registered c)
  | .package request => inferInstanceAs (Decidable (request.contains c = true))
  | .archives => inferInstanceAs (Decidable (∃ e ∈ registered, e.id = c.id ∧ e.archived = true))

/-- Scans ask for classes, by whatever reference. -/
lemma asksFor_congr {c c' : ClassRef} (h : c.id = c'.id) (registered : List IndexedClass)
    (scan : Scan) : scan.asksFor registered c ↔ scan.asksFor registered c' := by
  cases scan with
  | package request => rw [asksFor, asksFor, request.contains_congr h]
  | archives => rw [asksFor, asksFor, h]

/-- What a scan asks for it asks for still when more has been registered. -/
lemma asksFor_of_subset {es es' : List IndexedClass} (h : es ⊆ es') {c : ClassRef} {scan : Scan}
    (hc : scan.asksFor es c) : scan.asksFor es' c := by
  cases scan with
  | package request => exact hc
  | archives =>
    obtain ⟨e, he, harchived⟩ := hc
    exact ⟨e, h he, harchived⟩

end Scan

namespace ClassIndex

lemma ofRegistrations_concat (es : List IndexedClass) (e : IndexedClass) :
    ofRegistrations (es ++ [e]) = (ofRegistrations es).register e := by
  simp [ofRegistrations]

/-- A class stands where it is registered first, and belongs to an archive if any registration says
so. -/
lemma ofRegistrations_eq (es : List IndexedClass) :
    ofRegistrations es = (Keyed.firsts IndexedClass.id es).map fun e =>
      ⟨e.reference, (es.filter fun e' => e'.id = e.id).any IndexedClass.archived⟩ := by
  have hgather : ofRegistrations es = Keyed.gather IndexedClass.id IndexedClass.combine es := rfl
  rw [hgather, Keyed.gather_eq_map fun e es => ⟨e.reference, es.any IndexedClass.archived⟩]
  · intro e es
    rfl
  · intro e
    simp
  · intro e es e'
    simp [IndexedClass.combine]

/-- A scan finds the registered classes of its loader that it asks for, each by the reference that
was registered first and in its place. -/
lemma find_eq (es : List IndexedClass) (loader : Loader) (scan : Scan) :
    (ofRegistrations es).find loader scan =
      (Keyed.firsts ClassRef.id (es.map IndexedClass.reference)).filter fun c =>
        decide (c.loader = loader ∧ scan.asksFor es c) := by
  have hfirsts : Keyed.firsts ClassRef.id (es.map IndexedClass.reference) =
      (Keyed.firsts IndexedClass.id es).map IndexedClass.reference := Keyed.firsts_map _ es
  rw [find, ofRegistrations_eq, List.filter_map, List.map_map, hfirsts, List.filter_map]
  show List.map IndexedClass.reference _ = List.map IndexedClass.reference _
  congr 1
  refine List.filter_congr fun e _ => ?_
  rw [Bool.eq_iff_iff, Function.comp_apply, Function.comp_apply, decide_eq_true_iff]
  cases scan with
  | package request => simp [matchesScan, Scan.asksFor]
  | archives =>
    have hid : e.reference.id = e.id := rfl
    simp [matchesScan, Scan.asksFor, hid]

/-- Which classes a scan finds. -/
lemma mem_map_id_find_iff {es : List IndexedClass} {loader : Loader} {scan : Scan}
    {c : ClassRef} :
    c.id ∈ ((ofRegistrations es).find loader scan).map ClassRef.id ↔
      c.id ∈ es.map IndexedClass.id ∧ c.loader = loader ∧ scan.asksFor es c := by
  have hids : c.id ∈ (Keyed.firsts ClassRef.id (es.map IndexedClass.reference)).map ClassRef.id ↔
      c.id ∈ es.map IndexedClass.id := by
    rw [Keyed.mem_map_firsts, List.map_map]
    rfl
  rw [find_eq, ← hids]
  constructor
  · intro hc
    obtain ⟨c', hc', hid⟩ := List.mem_map.1 hc
    obtain ⟨hc', hasks⟩ := List.mem_filter.1 hc'
    obtain ⟨hloader, hasks⟩ := of_decide_eq_true hasks
    refine ⟨hid ▸ List.mem_map_of_mem hc', ?_, (scan.asksFor_congr hid es).1 hasks⟩
    exact (congrArg ClassId.loader hid).symm.trans hloader
  · rintro ⟨hc, hloader, hasks⟩
    obtain ⟨c', hc', hid⟩ := List.mem_map.1 hc
    refine List.mem_map.2 ⟨c', List.mem_filter.2 ⟨hc', decide_eq_true ⟨?_, ?_⟩⟩, hid⟩
    · exact (congrArg ClassId.loader hid).trans hloader
    · exact (scan.asksFor_congr hid es).2 hasks

end ClassIndex

/-! ### What is found -/

namespace Call

variable {calls : List Call}

/-- Scans of an index find the registered classes of the loader that some request contains or some
registration puts into an archive. -/
theorem mem_map_id_found_iff {es : List IndexedClass} {managed : Bool} {isClosed : Loader → Bool}
    {c : ClassRef}
    (hdiscovery : (latest? discovery? calls).getD true = true)
    (hopen : isClosed (loader calls ((ClassIndex.ofRegistrations es).host managed)) = false) :
    c.id ∈ (found calls ((ClassIndex.ofRegistrations es).host managed) isClosed).map ClassRef.id ↔
      c.id ∈ es.map IndexedClass.id ∧
      c.loader = loader calls ((ClassIndex.ofRegistrations es).host managed) ∧
      ((∃ e ∈ es, e.id = c.id ∧ e.archived = true) ∨
        ∃ q ∈ calls.flatMap requested, q.contains c = true) := by
  set host := (ClassIndex.ofRegistrations es).host managed with hhost
  set loader := loader calls host with hloader
  have hscans : scans calls (isClosed loader) =
      (packages calls).map .package ++ [.archives] := by
    rw [scans, hdiscovery, hopen]
    rfl
  have hfind : ∀ scan, c.id ∈ (host.reply loader scan).found.map ClassRef.id ↔
      c.id ∈ es.map IndexedClass.id ∧ c.loader = loader ∧ scan.asksFor es c :=
    fun scan => ClassIndex.mem_map_id_find_iff
  have hsome : c.id ∈ (found calls host isClosed).map ClassRef.id ↔
      ∃ scan ∈ scans calls (isClosed loader),
        c.id ∈ (host.reply loader scan).found.map ClassRef.id := by
    rw [found, List.map_flatMap, List.mem_flatMap]
  rw [hsome, hscans, ← exists_contains_packages_iff]
  simp only [hfind]
  constructor
  · rintro ⟨scan, hscan, hc, hl, hasks⟩
    refine ⟨hc, hl, ?_⟩
    rcases List.mem_append.1 hscan with hscan | hscan
    · obtain ⟨p, hp, rfl⟩ := List.mem_map.1 hscan
      exact .inr ⟨p, hp, hasks⟩
    · obtain rfl := List.mem_singleton.1 hscan
      exact .inl hasks
  · rintro ⟨hc, hl, harchived | ⟨p, hp, hcontains⟩⟩
    · exact ⟨.archives, List.mem_append_right _ (List.mem_singleton_self _), hc, hl, harchived⟩
    · exact ⟨.package p, List.mem_append_left _ (List.mem_map_of_mem hp), hc, hl, hcontains⟩

/-- The classes that are only found are those that are found and that no call names. -/
lemma mem_map_id_classesFor_discovered {found : List ClassRef} {k : ClassId} :
    k ∈ (classesFor calls found .discovered).map ClassRef.id ↔
      k ∈ found.map ClassRef.id ∧ k ∉ (calls.flatMap named).map ClassRef.id := by
  have hfound : k ∈ (Keyed.firsts ClassRef.id found).map ClassRef.id ↔
      k ∈ found.map ClassRef.id := Keyed.mem_map_firsts
  rw [classesFor, ← hfound]
  constructor
  · intro h
    obtain ⟨c, hc, rfl⟩ := List.mem_map.1 h
    obtain ⟨hc, hnot⟩ := List.mem_filter.1 hc
    exact ⟨List.mem_map_of_mem hc, of_decide_eq_true hnot⟩
  · rintro ⟨h, hnot⟩
    obtain ⟨c, hc, rfl⟩ := List.mem_map.1 h
    exact List.mem_map_of_mem (List.mem_filter.2 ⟨hc, decide_eq_true hnot⟩)

/-- No class is deployed twice because it was found. -/
lemma nodup_map_id_classesFor_discovered (calls : List Call) (found : List ClassRef) :
    ((classesFor calls found .discovered).map ClassRef.id).Nodup := by
  apply List.Nodup.sublist (List.Sublist.map _ List.filter_sublist)
  exact Keyed.nodup_map_firsts found

end Call

end BeanContainer
