import BeanContainer.Proofs.Keyed
/-!
# Keyed lists with an index

A `Table` is a list with an index that tells where the entry of a key stands. Entries are added and
changed by way of the index alone, which fails if the index has no place for a key or if another
entry stands there (`Table.modify?`).

Tables that are built from nothing never fail (`Table.exists_ofList?`): their index stays exact, and
their entries are those of the keyed list that is built without one.
-/

namespace BeanContainer.Keyed

/-- A list with an index of its entries. -/
structure Table (α κ : Type) where
  entries : List α := []
  index : κ → Option Nat := fun _ => none

namespace Table

variable {α κ : Type}

/-- The index has the place of every key, and no place for anything else. -/
def IsExact (key : α → κ) (t : Table α κ) : Prop :=
  ∀ k i, t.index k = some i ↔ (t.entries.map key)[i]? = some k

variable {key : α → κ} {t : Table α κ}

lemma isExact_empty : IsExact key {} := by simp [IsExact]

lemma IsExact.isSome_index_iff (h : t.IsExact key) {k : κ} :
    (t.index k).isSome = true ↔ k ∈ t.entries.map key := by
  rw [List.mem_iff_getElem?, Option.isSome_iff_exists]
  exact exists_congr (h k)

lemma IsExact.nodup (h : t.IsExact key) : (t.entries.map key).Nodup := by
  rw [List.nodup_iff_getElem?_ne_getElem?]
  intro i j hij hj e
  obtain ⟨k, hk⟩ : ∃ k, (t.entries.map key)[j]? = some k := ⟨_, List.getElem?_eq_getElem hj⟩
  have hi := (h k i).2 (e.trans hk)
  rw [(h k j).2 hk, Option.some.injEq] at hi
  exact Nat.ne_of_lt hij hi.symm

/-! ### Operations -/

variable [DecidableEq κ]

/-- Change the entry of a key in the place that the index has for it. -/
def modify? (key : α → κ) (k : κ) (f : α → α) (t : Table α κ) : Option (Table α κ) :=
  match t.index k with
  | none => none
  | some i =>
    match t.entries[i]? with
    | none => none
    | some y => if key y = k then some { t with entries := t.entries.set i (f y) } else none

/-- Add an entry at the end. -/
def push (key : α → κ) (x : α) (t : Table α κ) : Table α κ where
  entries := t.entries ++ [x]
  index := fun k => if k = key x then some t.entries.length else t.index k

/-- Add an entry: to the one in its place if the index has a place for its key, and at the end
otherwise. -/
def put? (key : α → κ) (combine : α → α → α) (x : α) (t : Table α κ) : Option (Table α κ) :=
  if (t.index (key x)).isSome then t.modify? key (key x) (combine · x) else some (t.push key x)

def ofList? (key : α → κ) (combine : α → α → α) (xs : List α) : Option (Table α κ) :=
  xs.foldlM (fun t x => t.put? key combine x) {}

variable {combine : α → α → α}

/-! ### Changing entries -/

/-- A key that occurs is found, and its entry alone changes. -/
lemma IsExact.exists_modify? (h : t.IsExact key) {k : κ} (hk : k ∈ t.entries.map key) {f : α → α}
    (hf : ∀ y, key (f y) = key y) :
    ∃ t', t.modify? key k f = some t' ∧ t'.IsExact key ∧
      t'.entries = t.entries.map fun y => if key y = k then f y else y := by
  obtain ⟨i, hi⟩ := Option.isSome_iff_exists.1 (h.isSome_index_iff.2 hk)
  have hget := (h k i).1 hi
  rw [List.getElem?_map, Option.map_eq_some_iff] at hget
  obtain ⟨y, hy, hyk⟩ := hget
  have hset : t.entries.set i (f y) = t.entries.map fun y => if key y = k then f y else y := by
    apply List.ext_getElem?
    intro j
    rw [List.getElem?_set, List.getElem?_map]
    by_cases hj : i = j
    · subst hj
      rw [if_pos rfl, if_pos (List.getElem?_eq_some_iff.1 hy).1, hy, Option.map_some, if_pos hyk]
    · rw [if_neg hj]
      cases hz : t.entries[j]? with
      | none => rfl
      | some z =>
        have hzk : key z ≠ k := fun e => hj <| by
          have hj' := (h k j).2 (by simp [hz, e])
          rwa [hi, Option.some.injEq] at hj'
        simp [hzk]
  have hkeys : (t.entries.map fun y => if key y = k then f y else y).map key =
      t.entries.map key := by
    rw [List.map_map]
    refine List.map_congr_left fun y _ => ?_
    rw [Function.comp_apply]
    split
    · exact hf y
    · rfl
  refine ⟨{ t with entries := t.entries.set i (f y) }, ?_, ?_, hset⟩
  · simp [modify?, hi, hy, hyk]
  · intro k' j
    rw [h k' j, hset, hkeys]

/-- Changes to keys that occur are all made, each to its entry. -/
lemma IsExact.exists_foldlM_modify? {β : Type} (h : t.IsExact key) (k : β → κ) (f : β → α → α)
    (hf : ∀ x y, key (f x y) = key y) {xs : List β}
    (hk : ∀ x ∈ xs, k x ∈ t.entries.map key) :
    ∃ t', xs.foldlM (fun t x => t.modify? key (k x) (f x)) t = some t' ∧
      t'.entries = t.entries.map fun y =>
        xs.foldl (fun y x => if key y = k x then f x y else y) y := by
  induction xs generalizing t with
  | nil => exact ⟨t, rfl, by simp⟩
  | cons x xs ih =>
    obtain ⟨t₁, hmod, hexact, hentries⟩ := h.exists_modify? (hk x List.mem_cons_self) (hf x)
    have hkeys : t₁.entries.map key = t.entries.map key := by
      rw [hentries, List.map_map]
      refine List.map_congr_left fun y _ => ?_
      rw [Function.comp_apply]
      split
      · exact hf x y
      · rfl
    obtain ⟨t', hfold, ht'⟩ := ih hexact fun z hz => hkeys ▸ hk z (List.mem_cons_of_mem x hz)
    refine ⟨t', ?_, ?_⟩
    · rw [List.foldlM_cons, hmod]
      exact hfold
    · rw [ht', hentries, List.map_map]
      rfl

/-! ### Adding entries -/

lemma IsExact.push (h : t.IsExact key) {x : α} (hx : key x ∉ t.entries.map key) :
    (t.push key x).IsExact key := by
  intro k i
  simp only [Table.push, List.map_append, List.map_singleton]
  have hlen : (t.entries.map key).length = t.entries.length := List.length_map _
  by_cases hk : k = key x
  · subst hk
    rw [if_pos rfl, Option.some.injEq]
    rcases Nat.lt_trichotomy i t.entries.length with hi | rfl | hi
    · rw [List.getElem?_append_left (hlen.symm ▸ hi)]
      exact iff_of_false (Nat.ne_of_gt hi) fun e => hx (List.mem_of_getElem? e)
    · simp
    · rw [List.getElem?_eq_none (by simpa using Nat.succ_le_of_lt hi)]
      exact iff_of_false (Nat.ne_of_lt hi) nofun
  · rw [if_neg hk, h k i]
    rcases Nat.lt_trichotomy i t.entries.length with hi | rfl | hi
    · rw [List.getElem?_append_left (hlen.symm ▸ hi)]
    · rw [List.getElem?_eq_none (Nat.le_of_eq hlen)]
      simp [Ne.symm hk]
    · rw [List.getElem?_eq_none (hlen.symm ▸ Nat.le_of_lt hi),
        List.getElem?_eq_none (by simpa using Nat.succ_le_of_lt hi)]

/-- An entry that is added by way of the index comes to stand where it would without one. -/
lemma IsExact.exists_put? (h : t.IsExact key) (hkey : ∀ a b, key (combine a b) = key a) (x : α) :
    ∃ t', t.put? key combine x = some t' ∧ t'.IsExact key ∧
      t'.entries = put key combine x t.entries := by
  rw [put?]
  by_cases hx : key x ∈ t.entries.map key
  · rw [if_pos (h.isSome_index_iff.2 hx), put_of_mem h.nodup hx]
    exact h.exists_modify? hx fun y => hkey y x
  · rw [if_neg (mt h.isSome_index_iff.1 hx), put_of_not_mem hx]
    exact ⟨_, rfl, h.push hx, rfl⟩

/-- A table that is built from nothing has the entries of the keyed list. -/
theorem exists_ofList? (hkey : ∀ a b, key (combine a b) = key a) (xs : List α) :
    ∃ t, ofList? key combine xs = some t ∧ t.IsExact key ∧ t.entries = gather key combine xs := by
  suffices h : ∀ t : Table α κ, t.IsExact key → ∃ t',
      xs.foldlM (fun t x => t.put? key combine x) t = some t' ∧ t'.IsExact key ∧
        t'.entries = putAll key combine t.entries xs from h {} isExact_empty
  induction xs with
  | nil => exact fun t ht => ⟨t, rfl, ht, rfl⟩
  | cons x xs ih =>
    intro t ht
    obtain ⟨t₁, hput, hexact, hentries⟩ := ht.exists_put? hkey x
    obtain ⟨t', hfold, hexact', ht'⟩ := ih t₁ hexact
    refine ⟨t', ?_, hexact', ?_⟩
    · rw [List.foldlM_cons, hput]
      exact hfold
    · rw [ht', hentries, putAll_cons]

end Table

end BeanContainer.Keyed
