import BeanContainer.Keyed
import Mathlib.Data.List.Induction
import Mathlib.Data.List.Nodup
import Mathlib.Tactic.Lemma
/-!
# What a keyed list is made of

A keyed list is built entry by entry. Here it is described at once, from everything that was ever
put into it: its entries stand where their keys occurred first (`Keyed.firsts`), and each is what
all entries with its key combine to (`Keyed.gather_eq_map`).
-/

namespace BeanContainer

/-- An element at the end stays unless something like it has been kept before. -/
lemma eraseDupsBy_concat {α : Type} (r : α → α → Bool) (xs : List α) (x : α) :
    (xs ++ [x]).eraseDupsBy r =
      xs.eraseDupsBy r ++ if (xs.eraseDupsBy r).any (r x) then [] else [x] := by
  suffices h : ∀ kept, List.eraseDupsBy.loop r (xs ++ [x]) kept =
      List.eraseDupsBy.loop r xs kept ++
        if (List.eraseDupsBy.loop r xs kept).any (r x) then [] else [x] from h []
  induction xs with
  | nil =>
    intro kept
    simp only [List.nil_append, List.eraseDupsBy.loop, List.any_reverse]
    cases h : kept.any (r x) <;> simp
  | cons y ys ih =>
    intro kept
    simp only [List.cons_append, List.eraseDupsBy.loop]
    by_cases h : kept.any (r y) = true
    · simp only [h, ih]
    · simp only [Bool.not_eq_true] at h
      simp only [h, ih]

lemma eraseDupsBy_subset {α : Type} (r : α → α → Bool) (xs : List α) :
    xs.eraseDupsBy r ⊆ xs := by
  induction xs using List.reverseRecOn with
  | nil => exact List.Subset.refl _
  | append_singleton xs x ih =>
    rw [eraseDupsBy_concat]
    refine List.append_subset.2 ⟨List.subset_append_of_subset_left _ ih, ?_⟩
    split
    · exact List.nil_subset _
    · exact List.subset_append_right _ _

namespace Keyed

variable {α κ : Type} [DecidableEq κ]

/-- The entries whose key has not occurred before. -/
def firsts (key : α → κ) (xs : List α) : List α :=
  xs.eraseDupsBy fun x y => decide (key x = key y)

variable {key : α → κ}

@[simp] lemma firsts_nil : firsts key [] = [] := rfl

lemma firsts_subset (xs : List α) : firsts key xs ⊆ xs := eraseDupsBy_subset _ xs

/-- An entry at the end stays exactly if its key is new. -/
lemma firsts_concat (xs : List α) (x : α) :
    firsts key (xs ++ [x]) =
      firsts key xs ++ if key x ∈ (firsts key xs).map key then [] else [x] := by
  have hany : (firsts key xs).any (fun y => decide (key x = key y)) = true ↔
      key x ∈ (firsts key xs).map key := by
    simp only [List.any_eq_true, decide_eq_true_eq, List.mem_map]
    exact exists_congr fun y => and_congr_right fun _ => eq_comm
  rw [← if_congr hany rfl rfl]
  exact eraseDupsBy_concat _ xs x

/-- No key gets lost, and none comes in. -/
lemma mem_map_firsts {xs : List α} {k : κ} : k ∈ (firsts key xs).map key ↔ k ∈ xs.map key := by
  induction xs using List.reverseRecOn generalizing k with
  | nil => rfl
  | append_singleton xs x ih =>
    rw [firsts_concat, List.map_append, List.map_append, List.mem_append, List.mem_append, ih]
    split
    · rename_i hx
      rw [List.map_nil, List.map_singleton, List.mem_singleton]
      constructor
      · rintro (h | h)
        · exact .inl h
        · cases h
      · rintro (h | rfl)
        · exact .inl h
        · exact .inl (ih.1 hx)
    · rfl

lemma firsts_concat_of_mem {xs : List α} {x : α} (h : key x ∈ xs.map key) :
    firsts key (xs ++ [x]) = firsts key xs := by
  rw [firsts_concat, if_pos (mem_map_firsts.2 h), List.append_nil]

lemma firsts_concat_of_not_mem {xs : List α} {x : α} (h : key x ∉ xs.map key) :
    firsts key (xs ++ [x]) = firsts key xs ++ [x] := by
  rw [firsts_concat, if_neg (mt mem_map_firsts.1 h)]

lemma nodup_map_firsts (xs : List α) : ((firsts key xs).map key).Nodup := by
  induction xs using List.reverseRecOn with
  | nil => exact List.nodup_nil
  | append_singleton xs x ih =>
    by_cases hx : key x ∈ xs.map key
    · rw [firsts_concat_of_mem hx]
      exact ih
    · have hx' : key x ∉ (firsts key xs).map key := mt mem_map_firsts.1 hx
      rw [firsts_concat_of_not_mem hx, List.map_append, List.map_singleton,
        ← List.concat_eq_append]
      exact ih.concat hx'

/-- Of all entries with a key, the first one stays. -/
lemma find?_firsts (xs : List α) (k : κ) :
    (firsts key xs).find? (key · = k) = xs.find? (key · = k) := by
  induction xs using List.reverseRecOn with
  | nil => rfl
  | append_singleton xs x ih =>
    by_cases hx : key x ∈ xs.map key
    · rw [firsts_concat_of_mem hx, ih, List.find?_append]
      cases hf : xs.find? (key · = k) with
      | some y => rfl
      | none =>
        obtain ⟨y, hy, hyx⟩ := List.mem_map.1 hx
        have hk : ¬ key x = k := fun e => by
          simpa [hyx, e] using List.find?_eq_none.1 hf y hy
        simp [hk]
    · rw [firsts_concat_of_not_mem hx, List.find?_append, List.find?_append, ih]

/-- What comes later stays as far as its keys have not occurred before. -/
lemma firsts_append (xs ys : List α) :
    firsts key (xs ++ ys) = firsts key xs ++ (firsts key ys).filter (key · ∉ xs.map key) := by
  induction ys using List.reverseRecOn with
  | nil => simp
  | append_singleton ys y ih =>
    rw [← List.append_assoc]
    by_cases hx : key y ∈ xs.map key
    · rw [firsts_concat_of_mem (by rw [List.map_append]; exact List.mem_append_left _ hx), ih]
      by_cases hy : key y ∈ ys.map key
      · rw [firsts_concat_of_mem hy]
      · rw [firsts_concat_of_not_mem hy, List.filter_append, List.filter_singleton]
        simp only [hx, not_true_eq_false, decide_false, cond_false, List.append_nil]
    · by_cases hy : key y ∈ ys.map key
      · rw [firsts_concat_of_mem (by rw [List.map_append]; exact List.mem_append_right _ hy), ih,
          firsts_concat_of_mem hy]
      · have hxy : key y ∉ (xs ++ ys).map key := by
          rw [List.map_append, List.mem_append]
          exact not_or.2 ⟨hx, hy⟩
        rw [firsts_concat_of_not_mem hxy, firsts_concat_of_not_mem hy, ih, List.filter_append,
          List.append_assoc, List.filter_singleton]
        simp only [hx, not_false_eq_true, decide_true, cond_true]

/-- The first entry stays, and of the others those with another key. -/
lemma firsts_cons (x : α) (xs : List α) :
    firsts key (x :: xs) = x :: (firsts key xs).filter (key · ≠ key x) := by
  have hone : firsts key [x] = [x] := rfl
  rw [← List.singleton_append, firsts_append, hone]
  simp

/-- Distinct keys all occur for the first time. -/
lemma firsts_of_nodup {xs : List α} (h : (xs.map key).Nodup) : firsts key xs = xs := by
  induction xs using List.reverseRecOn with
  | nil => rfl
  | append_singleton xs x ih =>
    rw [List.map_append, List.map_singleton] at h
    have hx : key x ∉ xs.map key := fun hm => by
      simpa using (List.nodup_append.1 h).2.2 _ hm _ (List.mem_singleton_self _)
    rw [firsts_concat_of_not_mem hx, ih (List.nodup_append.1 h).1]

@[simp] lemma firsts_firsts (xs : List α) : firsts key (firsts key xs) = firsts key xs :=
  firsts_of_nodup (nodup_map_firsts xs)

lemma firsts_map {β : Type} (f : β → α) (xs : List β) :
    firsts key (xs.map f) = (firsts (fun x => key (f x)) xs).map f := by
  induction xs using List.reverseRecOn with
  | nil => rfl
  | append_singleton xs x ih =>
    have hkeys : (xs.map f).map key = xs.map fun x => key (f x) := List.map_map
    rw [List.map_append, List.map_singleton]
    by_cases hx : key (f x) ∈ (xs.map f).map key
    · rw [firsts_concat_of_mem hx, ih, firsts_concat_of_mem (hkeys ▸ hx)]
    · rw [firsts_concat_of_not_mem hx, ih, firsts_concat_of_not_mem (hkeys ▸ hx), List.map_append,
        List.map_singleton]

/-! ### Gathering -/

variable {combine : α → α → α}

lemma gather_concat (xs : List α) (x : α) :
    gather key combine (xs ++ [x]) = put key combine x (gather key combine xs) := by
  rw [gather, gather, putAll_append, putAll_cons, putAll_nil]

/-- Where older entries stay as they are, the first ones are all there is. -/
lemma gather_first (xs : List α) : gather key first xs = firsts key xs := by
  induction xs using List.reverseRecOn with
  | nil => rfl
  | append_singleton xs x ih =>
    rw [gather_concat, ih]
    by_cases hx : key x ∈ xs.map key
    · rw [firsts_concat_of_mem hx, put_first_of_mem (mem_map_firsts.2 hx)]
    · rw [firsts_concat_of_not_mem hx, put_of_not_mem (mt mem_map_firsts.1 hx)]

lemma subset_put_first (x : α) (xs : List α) : xs ⊆ put key first x xs := by
  by_cases hx : key x ∈ xs.map key
  · rw [put_first_of_mem hx]
    exact List.Subset.refl _
  · rw [put_of_not_mem hx]
    exact List.subset_append_left _ _

/-- Where older entries stay as they are, none gets lost. -/
lemma subset_putAll_first (xs new : List α) : xs ⊆ putAll key first xs new := by
  induction new generalizing xs with
  | nil => exact List.Subset.refl _
  | cons x new ih => exact List.Subset.trans (subset_put_first x xs) (ih _)

/-- A known key changes the one entry that has it. -/
lemma put_of_mem {x : α} {xs : List α} (hn : (xs.map key).Nodup) (h : key x ∈ xs.map key) :
    put key combine x xs = xs.map fun y => if key y = key x then combine y x else y := by
  induction xs with
  | nil => cases h
  | cons y ys ih =>
    rw [List.map_cons, List.nodup_cons] at hn
    rw [List.map_cons]
    by_cases hy : key y = key x
    · have hys : ys.map (fun z => if key z = key x then combine z x else z) = ys := by
        refine (List.map_congr_left fun z hz => if_neg fun hzx => hn.1 ?_).trans ys.map_id'
        exact hy.trans hzx.symm ▸ List.mem_map_of_mem hz
      rw [put_cons_of_eq key combine hy, if_pos hy, hys]
    · rw [put_cons_of_ne key combine hy, if_neg hy, ih hn.2]
      rw [List.map_cons, List.mem_cons] at h
      exact h.resolve_left (Ne.symm hy)

/-- The entry with a key is what all entries with that key amount to, if this can be told from the
first of them and all of them, and changes with each further one as entries are combined. -/
lemma gather_eq_map (amount : α → List α → α) (hkey : ∀ x ys, key (amount x ys) = key x)
    (hone : ∀ x, amount x [x] = x)
    (hmore : ∀ x ys y, amount x (ys ++ [y]) = combine (amount x ys) y) (xs : List α) :
    gather key combine xs =
      (firsts key xs).map fun x => amount x (xs.filter fun y => key y = key x) := by
  have hkeys : ∀ (f : α → List α) (ys : List α),
      (ys.map fun x => amount x (f x)).map key = ys.map key := fun f ys => by
    simp [hkey]
  induction xs using List.reverseRecOn with
  | nil => rfl
  | append_singleton xs x ih =>
    rw [gather_concat, ih]
    by_cases hx : key x ∈ xs.map key
    · rw [firsts_concat_of_mem hx, put_of_mem (by rw [hkeys]; exact nodup_map_firsts xs)
        (by rw [hkeys]; exact mem_map_firsts.2 hx), List.map_map]
      refine List.map_congr_left fun y _ => ?_
      rw [Function.comp_apply, hkey, List.filter_append, List.filter_singleton]
      by_cases hy : key y = key x
      · rw [if_pos hy, hy, decide_eq_true rfl, cond_true, hmore]
      · rw [if_neg hy, decide_eq_false (Ne.symm hy), cond_false, List.append_nil]
    · have hold : (firsts key xs).map (fun y => amount y ((xs ++ [x]).filter (key · = key y))) =
          (firsts key xs).map fun y => amount y (xs.filter (key · = key y)) := by
        refine List.map_congr_left fun y hy => ?_
        have hyx : key x ≠ key y := fun e => hx (e ▸ mem_map_firsts.1 (List.mem_map_of_mem hy))
        rw [List.filter_append, List.filter_singleton, decide_eq_false hyx, cond_false,
          List.append_nil]
      have hnew : (xs ++ [x]).filter (key · = key x) = [x] := by
        have hxs : xs.filter (key · = key x) = [] := List.filter_eq_nil_iff.2 fun y hy e =>
          hx (of_decide_eq_true e ▸ List.mem_map_of_mem hy)
        rw [List.filter_append, hxs, List.filter_singleton, decide_eq_true rfl, cond_true,
          List.nil_append]
      rw [firsts_concat_of_not_mem hx, put_of_not_mem (by rw [hkeys]; exact mt mem_map_firsts.1 hx),
        List.map_append, hold, List.map_singleton, hnew, hone]

/-! ### Images -/

section Image

variable {β : Type} {f : α → β} {key' : β → κ} {combine' : β → β → β}

/-- A map that keeps keys and respects the way of combining commutes with adding an entry. -/
lemma put_map (hkey : ∀ x, key' (f x) = key x)
    (hcombine : ∀ x y, combine' (f x) (f y) = f (combine x y)) (x : α) (xs : List α) :
    put key' combine' (f x) (xs.map f) = (put key combine x xs).map f := by
  induction xs with
  | nil => rfl
  | cons y ys ih =>
    rw [List.map_cons]
    by_cases h : key y = key x
    · rw [put_cons_of_eq key combine h, put_cons_of_eq key' combine' (by rw [hkey, hkey, h]),
        hcombine, List.map_cons]
    · rw [put_cons_of_ne key combine h, put_cons_of_ne key' combine' (by rwa [hkey, hkey]), ih,
        List.map_cons]

lemma putAll_map (hkey : ∀ x, key' (f x) = key x)
    (hcombine : ∀ x y, combine' (f x) (f y) = f (combine x y)) (xs new : List α) :
    putAll key' combine' (xs.map f) (new.map f) = (putAll key combine xs new).map f := by
  induction new generalizing xs with
  | nil => rfl
  | cons x new ih => rw [List.map_cons, putAll_cons, putAll_cons, put_map hkey hcombine, ih]

end Image

/-- Where later entries take the place of earlier ones, the last entry with a key is there. -/
lemma find?_put_last (x : α) (xs : List α) (k : κ) :
    (put key last x xs).find? (key · = k) =
      if key x = k then some x else xs.find? (key · = k) := by
  induction xs with
  | nil => by_cases hk : key x = k <;> simp [hk]
  | cons y ys ih =>
    by_cases hy : key y = key x
    · rw [put_cons_of_eq key last hy, last_eq]
      by_cases hk : key x = k <;> simp [hk, hy]
    · rw [put_cons_of_ne key last hy, List.find?_cons, List.find?_cons, ih]
      by_cases hk : key y = k
      · have hx : ¬ key x = k := fun e => hy (hk.trans e.symm)
        simp [hk, hx]
      · simp [hk]

/-- Of distinct keys, each has one entry at most. -/
lemma filter_eq_toList_find? {xs : List α} (hn : (xs.map key).Nodup) (k : κ) :
    xs.filter (key · = k) = (xs.find? (key · = k)).toList := by
  induction xs with
  | nil => rfl
  | cons x xs ih =>
    rw [List.map_cons, List.nodup_cons] at hn
    by_cases hk : key x = k
    · have hxs : xs.filter (key · = k) = [] := List.filter_eq_nil_iff.2 fun y hy hyk =>
        hn.1 (hk.trans (of_decide_eq_true hyk).symm ▸ List.mem_map_of_mem hy)
      simp [hk, hxs]
    · simp [hk, ih hn.2]

/-- Entries with distinct keys are known by the order of the keys and by the entry of each. -/
lemma eq_of_find? {xs ys : List α} (hn : (xs.map key).Nodup) (hkeys : xs.map key = ys.map key)
    (hfind : ∀ k, xs.find? (key · = k) = ys.find? (key · = k)) : xs = ys := by
  induction xs generalizing ys with
  | nil => exact (List.map_eq_nil_iff.1 hkeys.symm).symm
  | cons x xs ih =>
    cases ys with
    | nil => cases hkeys
    | cons y ys =>
      rw [List.map_cons, List.map_cons] at hkeys
      obtain ⟨hhead, htail⟩ := List.cons.inj hkeys
      rw [List.map_cons, List.nodup_cons] at hn
      have hxy : x = y := by simpa [hhead] using hfind (key x)
      have hfind' : ∀ k, xs.find? (key · = k) = ys.find? (key · = k) := by
        intro k
        by_cases hk : key x = k
        · have hnone : ∀ zs : List α, zs.map key = xs.map key → zs.find? (key · = k) = none := by
            intro zs hzs
            refine List.find?_eq_none.2 fun z hz hzk => hn.1 ?_
            rw [← hzs, hk, ← of_decide_eq_true hzk]
            exact List.mem_map_of_mem hz
          rw [hnone xs rfl, hnone ys htail.symm]
        · simpa [List.find?_cons, hk, hhead ▸ hk] using hfind k
      rw [hxy, ih hn.2 htail hfind']

end Keyed

end BeanContainer
