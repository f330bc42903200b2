import BeanContainer.Proofs.Annotation.Replay
/-!
# Comparing metadata

An element has an entry in metadata from the first annotation that is added to it until all its
annotations are removed at once (`Edit.leavesEntry`). It keeps the entry when they are removed one
by one. Metadata is compared entry by entry, so two of them compare equal exactly if all elements
carry equal annotations and the same elements have entries. An entry without annotations shows in
comparisons only: equal annotations are not enough (`TypeOverride.not_forall_beq_metadata`).
-/

namespace BeanContainer

deriving instance ReflBEq for Annotation

/-! ### Entries -/

namespace Edit

/-- Whether an edit gives an element an entry, unless it has one. -/
def givesEntry (t : Target) : Edit → Bool
  | .add u _ => u = t
  | _ => false

/-- Whether an edit takes the entry of an element away. -/
def dropsEntry (t : Target) : Edit → Bool
  | .removeAll u => u = t
  | _ => false

/-- Whether something has been added to an element since all was removed from it at once. -/
def leavesEntry (t : Target) (es : List Edit) : Bool :=
  (es.rtakeWhile fun e => !e.dropsEntry t).any (givesEntry t)

variable {t : Target}

lemma leavesEntry_concat (es : List Edit) (e : Edit) :
    leavesEntry t (es ++ [e]) = (!e.dropsEntry t && (e.givesEntry t || leavesEntry t es)) := by
  rw [leavesEntry, List.rtakeWhile_concat]
  cases h : e.dropsEntry t <;> simp [leavesEntry, Bool.or_comm]

/-- An element that no edit is about has no entry. -/
lemma leavesEntry_of_target_ne {es : List Edit} (h : ∀ e ∈ es, e.target ≠ t) :
    leavesEntry t es = false := by
  rw [leavesEntry, List.any_eq_false]
  intro e he
  have hne := h e ((List.rtakeWhile_suffix _ _).subset he)
  cases e with
  | add u a => simpa [givesEntry, target] using hne
  | _ => simp [givesEntry]

end Edit

namespace TypeMetadata

lemma contains_apply (m : TypeMetadata) (e : Edit) (t : Target) :
    (m.apply e).entries.contains t =
      (!e.dropsEntry t && (e.givesEntry t || m.entries.contains t)) := by
  cases e with
  | add u a =>
    by_cases h : t = u <;>
      simp [apply, Dictionary.contains, Dictionary.get?_insert, Edit.dropsEntry, Edit.givesEntry, h,
        eq_comm]
  | remove u n =>
    simp only [apply]
    split
    · next as has =>
      by_cases h : t = u <;>
        simp [Dictionary.contains, Dictionary.get?_insert, Edit.dropsEntry, Edit.givesEntry, h, has]
    · simp [Edit.dropsEntry, Edit.givesEntry]
  | removeAll u =>
    by_cases h : t = u <;>
      simp [apply, Dictionary.contains, Dictionary.get?_erase, Edit.dropsEntry, Edit.givesEntry, h,
        eq_comm]

/-- Replaying edits gives entries to the elements that are left with one. -/
lemma contains_replay (es : List Edit) (t : Target) :
    (({} : TypeMetadata).replay es).entries.contains t = Edit.leavesEntry t es := by
  induction es using List.reverseRecOn with
  | nil => rfl
  | append_singleton es e ih =>
    rw [replay_append, replay_cons, replay_nil, contains_apply, ih, Edit.leavesEntry_concat]

/-- What has no entry carries no annotation. -/
lemma annotations_of_not_contains {m : TypeMetadata} {t : Target}
    (h : m.entries.contains t = false) : m.annotations t = [] := by
  rw [Dictionary.contains, Option.isSome_eq_false_iff, Option.isNone_iff_eq_none] at h
  rw [annotations, h, Option.getD_none]

/-- Metadata compares equal if all elements carry equal annotations and the same elements have
entries. -/
lemma beq_iff {m m' : TypeMetadata} :
    (m == m') = true ↔ (∀ t, (m.annotations t == m'.annotations t) = true) ∧
      ∀ t, m.entries.contains t = m'.entries.contains t := by
  have hentry : ∀ x y : Option (List Annotation),
      (x == y) = true ↔ (x.getD [] == y.getD []) = true ∧ x.isSome = y.isSome := by
    intro x y
    cases x <;> cases y <;> simp
  have hentries : (m == m') = true ↔ (m.entries == m'.entries) = true := Iff.rfl
  rw [hentries, Dictionary.beq_iff_get?, ← forall_and]
  exact forall_congr' fun t => hentry _ _

/-- Where annotations are equal but only one side has an entry, there are no annotations. -/
lemma annotations_eq_nil {m m' : TypeMetadata} {t : Target}
    (h : (m.annotations t == m'.annotations t) = true)
    (hentries : m.entries.contains t ≠ m'.entries.contains t) :
    m.annotations t = [] ∧ m'.annotations t = [] := by
  have hiff : m.annotations t = [] ↔ m'.annotations t = [] := by
    revert h
    cases m.annotations t <;> cases m'.annotations t <;> simp
  cases hm : m.entries.contains t with
  | false =>
    have hnil := annotations_of_not_contains hm
    exact ⟨hnil, hiff.1 hnil⟩
  | true =>
    have hm' : m'.entries.contains t = false := by simpa [hm] using hentries
    have hnil := annotations_of_not_contains hm'
    exact ⟨hiff.2 hnil, hnil⟩

/-! ### Removing -/

/-- Removing annotations one by one leaves those with other names. -/
lemma annotations_replay_removes (m : TypeMetadata) (t u : Target) (names : List String) :
    (m.replay (names.map (Edit.remove t))).annotations u =
      if u = t then (m.annotations t).filter fun a => a.name ∉ names else m.annotations u := by
  induction names generalizing m with
  | nil => by_cases h : u = t <;> simp [h]
  | cons name names ih =>
    rw [List.map_cons, replay_cons, ih]
    simp only [annotations_apply_remove, if_true]
    split
    · rw [List.filter_filter]
      refine List.filter_congr fun a _ => ?_
      by_cases ha : a.name = name <;> simp [ha]
    · rfl

lemma contains_replay_removes (m : TypeMetadata) (t u : Target) (names : List String) :
    (m.replay (names.map (Edit.remove t))).entries.contains u = m.entries.contains u := by
  induction names generalizing m with
  | nil => rfl
  | cons name names ih =>
    rw [List.map_cons, replay_cons, ih, contains_apply]
    simp [Edit.dropsEntry, Edit.givesEntry]

/-- Removing all annotations of an element one by one leaves the element with its entry, and
otherwise comes to the same as removing them at once. -/
lemma replay_removes (m : TypeMetadata) {t : Target} {names : List String}
    (h : ∀ a ∈ m.annotations t, a.name ∈ names) :
    (∀ u, (m.replay (names.map (Edit.remove t))).annotations u =
      (m.apply (.removeAll t)).annotations u) ∧
    (m.replay (names.map (Edit.remove t)) == m.apply (.removeAll t)) =
      !m.entries.contains t := by
  have hannotations : ∀ u, (m.replay (names.map (Edit.remove t))).annotations u =
      (m.apply (.removeAll t)).annotations u := by
    intro u
    rw [annotations_replay_removes, annotations_apply_removeAll]
    split
    · exact List.filter_eq_nil_iff.2 fun a ha => by simpa using h a ha
    · rfl
  refine ⟨hannotations, ?_⟩
  rw [Bool.eq_iff_iff, beq_iff, Bool.not_eq_true']
  constructor
  · rintro ⟨-, hentries⟩
    have ht := hentries t
    rw [contains_replay_removes, contains_apply] at ht
    simpa [Edit.dropsEntry] using ht
  · intro hnone
    refine ⟨fun u => by rw [hannotations u]; exact BEq.rfl, fun u => ?_⟩
    rw [contains_replay_removes, contains_apply]
    by_cases hu : t = u
    · subst hu
      simp [hnone, Edit.dropsEntry]
    · simp [hu, Edit.dropsEntry, Edit.givesEntry]

/-- To add an annotation and to remove it leaves an entry where there was none. -/
lemma apply_add_remove (m : TypeMetadata) {t : Target} (a : Annotation)
    (h : m.entries.contains t = false) :
    (∀ u, ((m.apply (.add t a)).apply (.remove t a.name)).annotations u = m.annotations u) ∧
    ((m.apply (.add t a)).apply (.remove t a.name) == m) = false ∧
    (m.apply (.add t a)).apply (.removeAll t) = m := by
  refine ⟨?_, ?_, ?_⟩
  · intro u
    rw [annotations_apply_remove, annotations_apply_add, annotations_apply_add, if_pos rfl]
    split
    · next hu => subst hu; rw [annotations_of_not_contains h]; simp
    · rfl
  · rw [← Bool.not_eq_true, beq_iff]
    rintro ⟨-, hentries⟩
    have ht := hentries t
    rw [contains_apply, contains_apply, h] at ht
    simp [Edit.dropsEntry, Edit.givesEntry] at ht
  · rw [Dictionary.contains, Option.isSome_eq_false_iff, Option.isNone_iff_eq_none] at h
    refine congrArg TypeMetadata.mk (Dictionary.ext_get? fun u => ?_)
    simp only [apply, Dictionary.get?_erase, Dictionary.get?_insert]
    split
    · next hu => rw [hu, h]
    · rfl

end TypeMetadata

namespace TypeOverride

/-- The metadata of two overrides compares equal exactly if all elements are left with equal
annotations and the same elements with entries. If the annotations are equal, it compares different
exactly if some element is left without annotations by both, and with an entry by one of them. So
removing the annotations of an element one by one comes to the same as removing them at once for all
who read annotations, but compares equal only if the element had no entry; and adding an annotation
to an element that has not been edited and removing it by its name leaves annotations as they were,
but compares different. -/
theorem beq_metadata (o o' : TypeOverride) :
    ((o.metadata == o'.metadata) = true ↔
      (∀ t, (o.metadata.annotations t == o'.metadata.annotations t) = true) ∧
        ∀ t, Edit.leavesEntry t o.edits = Edit.leavesEntry t o'.edits) ∧
    ((∀ t, (o.metadata.annotations t == o'.metadata.annotations t) = true) →
      ((o.metadata == o'.metadata) = false ↔
        ∃ t, o.metadata.annotations t = [] ∧ o'.metadata.annotations t = [] ∧
          Edit.leavesEntry t o.edits ≠ Edit.leavesEntry t o'.edits)) ∧
    (∀ t (names : List String), (∀ a ∈ o.metadata.annotations t, a.name ∈ names) →
      let oneByOne := (o.edit (names.map (Edit.remove t))).metadata
      let atOnce := (o.edit [.removeAll t]).metadata
      (∀ u, oneByOne.annotations u = atOnce.annotations u) ∧
        (oneByOne == atOnce) = !Edit.leavesEntry t o.edits) ∧
    ∀ t a, (∀ e ∈ o.edits, e.target ≠ t) →
      let byName := (o.edit [.add t a, .remove t a.name]).metadata
      (∀ u, byName.annotations u = o.metadata.annotations u) ∧
        (byName == o.metadata) = false ∧
        (o.edit [.add t a, .removeAll t]).metadata = o.metadata := by
  have hentries : ∀ (o : TypeOverride) t,
      o.metadata.entries.contains t = Edit.leavesEntry t o.edits :=
    fun o t => TypeMetadata.contains_replay o.edits t
  have hiff : (o.metadata == o'.metadata) = true ↔
      (∀ t, (o.metadata.annotations t == o'.metadata.annotations t) = true) ∧
        ∀ t, Edit.leavesEntry t o.edits = Edit.leavesEntry t o'.edits := by
    simp only [TypeMetadata.beq_iff, hentries]
  have hmore : ∀ es, (o.edit es).metadata = o.metadata.replay es :=
    fun es => TypeMetadata.replay_append {} o.edits es
  refine ⟨hiff, ?_, ?_, ?_⟩
  · intro hannotations
    rw [← Bool.not_eq_true, hiff, not_and]
    constructor
    · intro h
      obtain ⟨t, ht⟩ := not_forall.1 (h hannotations)
      obtain ⟨hnil, hnil'⟩ := TypeMetadata.annotations_eq_nil (hannotations t)
        (by rwa [hentries, hentries])
      exact ⟨t, hnil, hnil', ht⟩
    · rintro ⟨t, -, -, ht⟩ - h
      exact ht (h t)
  · intro t names hnames oneByOne atOnce
    rw [show oneByOne = _ from hmore _, show atOnce = _ from hmore _, ← hentries]
    exact TypeMetadata.replay_removes o.metadata hnames
  · intro t a hne byName
    rw [show byName = _ from hmore _, hmore]
    refine TypeMetadata.apply_add_remove o.metadata a ?_
    rw [hentries, Edit.leavesEntry_of_target_ne hne]

/-- An order of which a member has been annotated and is not any more. -/
theorem beq_metadata_emptiedMember :
    let order : ClassRef := ⟨⟨"app::Order", .system⟩, {}⟩
    let o : TypeOverride :=
      ⟨order, [.add .type { name := "Entity" }, .add (.member "id") { name := "Key" }]⟩
    let total : Target := .member "total"
    let emptied := o.edit [.add total { name := "Cached" }, .remove total "Cached"]
    let cleared := o.edit [.add total { name := "Cached" }, .removeAll total]
    (∀ e ∈ o.edits, e.target ≠ total) ∧
    (∀ t, (o.metadata.annotations t == emptied.metadata.annotations t) = true) ∧
    (o.metadata == emptied.metadata) = false ∧ cleared.metadata = o.metadata ∧
    (∀ a ∈ o.metadata.annotations .type, a.name ∈ ["Entity"]) ∧
    ((o.edit [.remove .type "Entity"]).metadata == (o.edit [.removeAll .type]).metadata) =
      false := by
  intro order o total emptied cleared
  have hne : ∀ e ∈ o.edits, e.target ≠ total := by decide
  have hnames : ∀ a ∈ o.metadata.annotations .type, a.name ∈ ["Entity"] := by
    intro a ha
    rw [List.mem_singleton.1 ha]
    exact List.mem_singleton_self _
  obtain ⟨-, hdifferent, hremoved, hback⟩ := beq_metadata o emptied
  obtain ⟨hannotations, -, hcleared⟩ := hback total { name := "Cached" } hne
  have hequal : ∀ t, (o.metadata.annotations t == emptied.metadata.annotations t) = true :=
    fun t => by rw [← hannotations t]; exact BEq.rfl
  refine ⟨hne, hequal, (hdifferent hequal).2 ⟨total, rfl, rfl, by decide⟩, hcleared, hnames, ?_⟩
  exact (hremoved .type ["Entity"] hnames).2.trans (by decide)

/-- Metadata does not compare equal whenever all elements carry equal annotations. -/
theorem not_forall_beq_metadata :
    ¬ ∀ o o' : TypeOverride, (o.metadata == o'.metadata) = true ↔
      ∀ t, (o.metadata.annotations t == o'.metadata.annotations t) = true := by
  intro h
  let order : ClassRef := ⟨⟨"app::Order", .system⟩, {}⟩
  let undone : TypeOverride := ⟨order, [.add .type { name := "A" }, .remove .type "A"]⟩
  let unedited : TypeOverride := ⟨order, []⟩
  have hannotations : ∀ t,
      (undone.metadata.annotations t == unedited.metadata.annotations t) = true := by
    intro t
    cases t <;> rfl
  have hequal := (h undone unedited).2 hannotations
  cases hequal

end TypeOverride

end BeanContainer
