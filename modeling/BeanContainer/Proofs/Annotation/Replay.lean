import BeanContainer.Annotation.Override
import BeanContainer.Proofs.Keyed
import Mathlib.Data.List.DropRight
/-!
# What edits leave on an element

Whether an element ends up with an annotation of a name is decided by the last edit that adds or
removes it (`Edit.decisive?`), and its place among the others by the first addition since the last
removal (`Edit.place?`). Both look at one element and one name at a time. Replaying edits keeps a
list for each element instead, and leaves there what these two say
(`TypeOverride.annotations_metadata`).
-/

namespace BeanContainer

namespace Edit

/-! ### What edits say about one name -/

/-- Whether an edit adds an annotation of a name to an element. -/
def adds (t : Target) (name : String) : Edit → Bool
  | .add u a => u = t && a.name = name
  | _ => false

/-- Whether an edit removes the annotation of a name from an element, alone or with all others. -/
def removes (t : Target) (name : String) : Edit → Bool
  | .remove u n => u = t && n = name
  | .removeAll u => u = t
  | .add .. => false

/-- The annotation that an edit adds, if it does. -/
def added? : Edit → Option Annotation
  | .add _ a => some a
  | _ => none

/-- The last edit that adds or removes the annotation of a name, if there is one. -/
def decisive? (t : Target) (name : String) (es : List Edit) : Option Edit :=
  (es.filter fun e => e.adds t name || e.removes t name).getLast?

/-- The position of the first edit that adds the annotation of a name, of all edits since it was
removed last. -/
def place? (t : Target) (name : String) (es : List Edit) : Option Nat :=
  ((es.zipIdx.rtakeWhile fun e => !e.1.removes t name).find? fun e => e.1.adds t name).map Prod.snd

variable {t : Target} {name : String}

/-- An edit of another element neither adds nor removes anything. -/
lemma adds_of_target_ne {e : Edit} (h : e.target ≠ t) : e.adds t name = false := by
  cases e with
  | add u a => simp [adds, show ¬ u = t from h]
  | _ => rfl

lemma removes_of_target_ne {e : Edit} (h : e.target ≠ t) : e.removes t name = false := by
  cases e with
  | add u a => rfl
  | remove u n => simp [removes, show ¬ u = t from h]
  | removeAll u => simp [removes, show ¬ u = t from h]

lemma decisive?_concat (es : List Edit) (e : Edit) :
    decisive? t name (es ++ [e]) =
      if e.adds t name || e.removes t name then some e else decisive? t name es := by
  rw [decisive?, List.filter_append, List.filter_singleton]
  by_cases h : (e.adds t name || e.removes t name) = true <;> simp [h, decisive?]

/-- A removal takes the place away, and the first addition after it gives a new one. -/
lemma place?_concat (es : List Edit) (e : Edit) :
    place? t name (es ++ [e]) =
      if e.removes t name then none
      else (place? t name es).or (if e.adds t name then some es.length else none) := by
  rw [place?, List.zipIdx_append, List.zipIdx_singleton, List.rtakeWhile_concat]
  by_cases hr : e.removes t name = true
  · simp [hr]
  · rw [Bool.not_eq_true] at hr
    simp only [hr, Bool.not_false, if_true, List.find?_append, Option.map_or, Bool.false_eq_true,
      if_false, Nat.zero_add, place?]
    by_cases ha : e.adds t name = true <;> simp [ha]

/-- A place is a position among the edits. -/
lemma lt_length_of_place? {es : List Edit} {i : Nat} (h : place? t name es = some i) :
    i < es.length := by
  induction es using List.reverseRecOn with
  | nil => cases h
  | append_singleton es e ih =>
    rw [place?_concat, Option.ite_none_left_eq_some, Option.or_eq_some_iff,
      Option.ite_none_right_eq_some, Option.some.injEq] at h
    rw [List.length_append, List.length_singleton]
    rcases h.2 with h | ⟨-, -, rfl⟩
    · exact Nat.lt_succ_of_lt (ih h)
    · exact Nat.lt_succ_self _

lemma isSome_added?_of_adds {e : Edit} (h : e.adds t name = true) : e.added?.isSome = true := by
  cases e with
  | add u a => rfl
  | _ => cases h

lemma added?_of_removes {e : Edit} (h : e.removes t name = true) : e.added? = none := by
  cases e with
  | add u a => cases h
  | _ => rfl

/-- There is a place exactly for what has been added last. -/
lemma isSome_place? (t : Target) (name : String) (es : List Edit) :
    (place? t name es).isSome = ((decisive? t name es).bind added?).isSome := by
  induction es using List.reverseRecOn with
  | nil => rfl
  | append_singleton es e ih =>
    rw [place?_concat, decisive?_concat]
    by_cases hr : e.removes t name = true
    · simp [hr, added?_of_removes hr]
    · rw [Bool.not_eq_true] at hr
      by_cases ha : e.adds t name = true
      · simp [hr, ha, isSome_added?_of_adds ha]
      · simp [hr, ha, ih]

/-- The place of one name is before that of another. -/
def Precedes (t : Target) (es : List Edit) (n n' : String) : Prop :=
  ∃ i j, place? t n es = some i ∧ place? t n' es = some j ∧ i < j

/-- A place is kept as long as there is one. -/
lemma place?_concat_of_isSome {es : List Edit} {e : Edit}
    (h : (place? t name es).isSome = true) (h' : (place? t name (es ++ [e])).isSome = true) :
    place? t name (es ++ [e]) = place? t name es := by
  rw [place?_concat] at h' ⊢
  by_cases hr : e.removes t name = true
  · simp [hr] at h'
  · rw [if_neg hr, Option.or_of_isSome h]

lemma Precedes.concat {es : List Edit} {e : Edit} {n n' : String} (h : Precedes t es n n')
    (hn : (place? t n (es ++ [e])).isSome = true)
    (hn' : (place? t n' (es ++ [e])).isSome = true) : Precedes t (es ++ [e]) n n' := by
  obtain ⟨i, j, hi, hj, hij⟩ := h
  refine ⟨i, j, ?_, ?_, hij⟩
  · rw [place?_concat_of_isSome (by simp [hi]) hn, hi]
  · rw [place?_concat_of_isSome (by simp [hj]) hn', hj]

/-- A name that had no place comes after those that had one and keep it. -/
lemma precedes_concat_of_new {es : List Edit} {e : Edit} {n n' : String}
    (hn : (place? t n es).isSome = true) (hn' : place? t n' es = none)
    (h : (place? t n (es ++ [e])).isSome = true)
    (h' : (place? t n' (es ++ [e])).isSome = true) : Precedes t (es ++ [e]) n n' := by
  obtain ⟨i, hi⟩ := Option.isSome_iff_exists.1 hn
  refine ⟨i, es.length, ?_, ?_, lt_length_of_place? hi⟩
  · rw [place?_concat_of_isSome hn h, hi]
  · rw [place?_concat, hn', Option.none_or] at h' ⊢
    split at h'
    · cases h'
    · next hr =>
      rw [if_neg hr]
      split at h'
      · next ha => rw [if_pos ha]
      · cases h'

/-! ### What an edit does to its element -/

/-- The annotations of the element that is edited. -/
def change (as : List Annotation) : Edit → List Annotation
  | .add _ a => Keyed.put Annotation.name Keyed.last a as
  | .remove _ n => as.filter fun a => a.name != n
  | .removeAll _ => []

/-- An edit decides what becomes of the names that it adds or removes, and of no other. -/
lemma find?_change (as : List Annotation) (e : Edit) (name : String) :
    (e.change as).find? (·.name = name) =
      if e.adds e.target name || e.removes e.target name then e.added?
      else as.find? (·.name = name) := by
  cases e with
  | add u a =>
    rw [change, Keyed.find?_put_last]
    simp [adds, removes, target, added?]
  | remove u n =>
    rw [change, List.find?_filter]
    by_cases hn : n = name
    · subst hn
      simp [adds, removes, target, added?]
    · have hrest : ∀ a : Annotation,
          decide ((a.name != n) = true ∧ decide (a.name = name) = true) =
            decide (a.name = name) := by
        intro a
        by_cases ha : a.name = name <;> simp [ha, Ne.symm hn]
      simp only [hrest, adds, removes, target, hn, decide_true, decide_false, Bool.and_false,
        Bool.or_false, Bool.false_eq_true, if_false]
  | removeAll u => simp [change, adds, removes, target, added?]

/-- The names that stay are in the same order, and one that is new comes last. -/
lemma map_name_change (as : List Annotation) (e : Edit) :
    ((e.change as).map Annotation.name).Sublist (as.map Annotation.name) ∨
      ∃ n ∉ as.map Annotation.name,
        (e.change as).map Annotation.name = as.map Annotation.name ++ [n] := by
  cases e with
  | add u a =>
    have hnames : (change as (.add u a)).map Annotation.name = _ :=
      Keyed.map_key_put (fun _ _ h => h.symm) a as
    by_cases ha : a.name ∈ as.map Annotation.name
    · rw [hnames, if_pos ha]
      exact .inl (List.Sublist.refl _)
    · rw [hnames, if_neg ha]
      exact .inr ⟨a.name, ha, rfl⟩
  | remove u n => exact .inl (List.filter_sublist.map _)
  | removeAll u => exact .inl (List.nil_sublist _)

lemma nodup_map_name_change {as : List Annotation} (h : (as.map Annotation.name).Nodup)
    (e : Edit) : ((e.change as).map Annotation.name).Nodup := by
  rcases map_name_change as e with hsub | ⟨n, hn, hnames⟩
  · exact h.sublist hsub
  · rw [hnames, ← List.concat_eq_append]
    exact h.concat hn

end Edit

namespace TypeMetadata

/-- An edit changes the element that it is about, and no other. -/
lemma annotations_apply (m : TypeMetadata) (e : Edit) (t : Target) :
    (m.apply e).annotations t =
      if e.target = t then e.change (m.annotations t) else m.annotations t := by
  by_cases h : e.target = t
  · subst h
    rw [if_pos rfl]
    cases e with
    | add u a => exact (m.annotations_apply_add u u a).trans (if_pos rfl)
    | remove u n => exact (m.annotations_apply_remove u u n).trans (if_pos rfl)
    | removeAll u => exact (m.annotations_apply_removeAll u u).trans (if_pos rfl)
  · rw [if_neg h]
    cases e with
    | add u a => exact (m.annotations_apply_add u t a).trans (if_neg (Ne.symm h))
    | remove u n => exact (m.annotations_apply_remove u t n).trans (if_neg (Ne.symm h))
    | removeAll u => exact (m.annotations_apply_removeAll u t).trans (if_neg (Ne.symm h))

lemma annotations_replay_concat (m : TypeMetadata) (es : List Edit) (e : Edit) (t : Target) :
    (m.replay (es ++ [e])).annotations t =
      if e.target = t then e.change ((m.replay es).annotations t)
      else (m.replay es).annotations t := by
  rw [replay_append, replay_cons, replay_nil, annotations_apply]

/-- An element is left with what the edits of it say. -/
lemma annotations_replay_filter (m : TypeMetadata) (es : List Edit) (t : Target) :
    (m.replay (es.filter (·.target = t))).annotations t = (m.replay es).annotations t := by
  induction es using List.reverseRecOn with
  | nil => rfl
  | append_singleton es e ih =>
    rw [annotations_replay_concat, List.filter_append, List.filter_singleton]
    by_cases h : e.target = t
    · rw [decide_eq_true h, cond_true, annotations_replay_concat, if_pos h, if_pos h, ih]
    · rw [decide_eq_false h, cond_false, List.append_nil, if_neg h, ih]

variable (es : List Edit) (t : Target)

lemma nodup_map_name_replay :
    (((({} : TypeMetadata).replay es).annotations t).map Annotation.name).Nodup := by
  induction es using List.reverseRecOn with
  | nil => exact List.nodup_nil
  | append_singleton es e ih =>
    rw [annotations_replay_concat]
    split
    · exact Edit.nodup_map_name_change ih e
    · exact ih

/-- The annotation of a name is the one that was added last, unless it was removed after that. -/
lemma find?_replay (name : String) :
    ((({} : TypeMetadata).replay es).annotations t).find? (·.name = name) =
      (Edit.decisive? t name es).bind Edit.added? := by
  induction es using List.reverseRecOn with
  | nil => rfl
  | append_singleton es e ih =>
    rw [annotations_replay_concat, Edit.decisive?_concat]
    by_cases h : e.target = t
    · subst h
      rw [if_pos rfl, Edit.find?_change, ih]
      split <;> rfl
    · rw [if_neg h, Edit.adds_of_target_ne h, Edit.removes_of_target_ne h, ih]
      rfl

lemma mem_map_name_replay (name : String) :
    name ∈ ((({} : TypeMetadata).replay es).annotations t).map Annotation.name ↔
      (Edit.place? t name es).isSome = true := by
  rw [Edit.isSome_place?, ← find?_replay, List.find?_isSome]
  simp

/-- The annotations of an element stand in the order of their places. -/
lemma pairwise_precedes_replay :
    (((({} : TypeMetadata).replay es).annotations t).map Annotation.name).Pairwise
      (Edit.Precedes t es) := by
  induction es using List.reverseRecOn with
  | nil => exact List.Pairwise.nil
  | append_singleton es e ih =>
    have hold := fun n => (mem_map_name_replay es t n).1
    have hnew := fun n => (mem_map_name_replay (es ++ [e]) t n).1
    rw [annotations_replay_concat] at hnew ⊢
    by_cases h : e.target = t
    · rw [if_pos h] at hnew ⊢
      rcases Edit.map_name_change ((({} : TypeMetadata).replay es).annotations t) e with
        hsub | ⟨n', hn', hnames⟩
      · exact (ih.sublist hsub).imp_of_mem fun hn hn' hprec =>
          hprec.concat (hnew _ hn) (hnew _ hn')
      · -- all names stay, and the new one is last
        rw [hnames] at hnew ⊢
        have hkept := fun n hn => hnew n (List.mem_append_left [n'] hn)
        have hnone : Edit.place? t n' es = none := by
          rwa [mem_map_name_replay, Bool.not_eq_true, Option.isSome_eq_false_iff,
            Option.isNone_iff_eq_none] at hn'
        refine List.pairwise_append.2 ⟨?_, List.pairwise_singleton _ _, ?_⟩
        · exact ih.imp_of_mem fun hn hn' hprec => hprec.concat (hkept _ hn) (hkept _ hn')
        · intro n hn n'' hn''
          rw [List.mem_singleton.1 hn'']
          exact Edit.precedes_concat_of_new (hold n hn) hnone (hkept n hn)
            (hnew n' (List.mem_append_right _ (List.mem_singleton_self n')))
    · rw [if_neg h] at hnew ⊢
      exact ih.imp_of_mem fun hn hn' hprec => hprec.concat (hnew _ hn) (hnew _ hn')

end TypeMetadata

/-- An override leaves an element with at most one annotation of each name: the one that was added
by the last edit that adds or removes it, and none if that edit removes it. The annotations stand in
the order in which their names were added first since they were removed last; so one that is added
once more keeps its place, and one that is added anew comes last. Edits of other elements make no
difference. -/
theorem TypeOverride.annotations_metadata (o : TypeOverride) (t : Target) :
    let left := o.metadata.annotations t
    (∀ name, left.filter (·.name = name) =
      ((Edit.decisive? t name o.edits).bind Edit.added?).toList) ∧
    (∀ name, name ∈ left.map Annotation.name ↔ (Edit.place? t name o.edits).isSome = true) ∧
    (left.map Annotation.name).Pairwise (Edit.Precedes t o.edits) ∧
    (∀ a, ((o.edit [.add t a]).metadata.annotations t).map Annotation.name =
      if a.name ∈ left.map Annotation.name then left.map Annotation.name
      else left.map Annotation.name ++ [a.name]) ∧
    (TypeOverride.mk o.target (o.edits.filter (·.target = t))).metadata.annotations t = left := by
  intro left
  refine ⟨?_, ?_, ?_, ?_, ?_⟩
  · intro name
    rw [← TypeMetadata.find?_replay]
    exact Keyed.filter_eq_toList_find? (TypeMetadata.nodup_map_name_replay o.edits t) name
  · intro name
    exact TypeMetadata.mem_map_name_replay o.edits t name
  · exact TypeMetadata.pairwise_precedes_replay o.edits t
  · intro a
    have hadded : (o.edit [.add t a]).metadata.annotations t = Edit.change left (.add t a) :=
      (TypeMetadata.annotations_replay_concat {} o.edits (.add t a) t).trans (if_pos rfl)
    rw [hadded]
    exact Keyed.map_key_put (fun _ _ h => h.symm) a left
  · exact TypeMetadata.annotations_replay_filter {} o.edits t

example :
    (TypeOverride.mk ⟨⟨"app::Order", .system⟩, {}⟩
      [.add .type { name := "Entity" }, .add .type { name := "Cached" },
        .add .type { name := "Entity", values := .ofList [("table", .string "orders")] },
        .remove .type "Cached", .add (.member "id") { name := "Entity" },
        .add .type { name := "Cached" }]).metadata.annotations .type =
      [{ name := "Entity", values := .ofList [("table", .string "orders")] },
        { name := "Cached" }] := rfl

end BeanContainer
