/-!
# Lists with one entry per key

Class sets, package requests, type overrides, the annotations of one element and a class index are
all lists that hold at most one entry per key and keep the place at which each key was first seen.
They differ only in what becomes of an entry when its key comes again, which `combine old new` says.

`put` adds one entry, `putAll` adds several in order, and `gather` starts from nothing. The keys of
the result do not depend on `combine`, as long as it keeps the key that both entries have
(`map_key_put`), and they stay distinct (`nodup_map_key_put`).
-/

namespace BeanContainer.Keyed

variable {α κ : Type} [DecidableEq κ]

/-- Add `x`: in place if an entry with its key is there already, at the end otherwise. -/
def put (key : α → κ) (combine : α → α → α) (x : α) : List α → List α
  | []      => [x]
  | y :: ys => if key y = key x then combine y x :: ys else y :: put key combine x ys

def putAll (key : α → κ) (combine : α → α → α) (xs new : List α) : List α :=
  new.foldl (fun acc x => put key combine x acc) xs

/-- One entry per key of a list, in the order of first occurrence. -/
def gather (key : α → κ) (combine : α → α → α) (xs : List α) : List α :=
  putAll key combine [] xs

/-- The entry that stays when a later one with the same key adds nothing. -/
def first (old _new : α) : α := old

/-- The entry that takes the place of an earlier one with the same key. -/
def last (_old new : α) : α := new

@[simp] theorem first_eq (old new : α) : first old new = old := rfl

@[simp] theorem last_eq (old new : α) : last old new = new := rfl

variable (key : α → κ) (combine : α → α → α)

@[simp] theorem put_nil (x : α) : put key combine x [] = [x] := rfl

theorem put_cons_of_eq {x y : α} (h : key y = key x) (ys : List α) :
    put key combine x (y :: ys) = combine y x :: ys := if_pos h

theorem put_cons_of_ne {x y : α} (h : key y ≠ key x) (ys : List α) :
    put key combine x (y :: ys) = y :: put key combine x ys := if_neg h

@[simp] theorem putAll_nil (xs : List α) : putAll key combine xs [] = xs := rfl

@[simp] theorem putAll_cons (xs : List α) (x : α) (new : List α) :
    putAll key combine xs (x :: new) = putAll key combine (put key combine x xs) new := rfl

theorem putAll_append (xs new more : List α) :
    putAll key combine xs (new ++ more) = putAll key combine (putAll key combine xs new) more := by
  simp [putAll, List.foldl_append]

/-! ### Keys -/

variable {key combine}

/-- A new key goes to the end, a known one changes no key. -/
theorem map_key_put (hkey : ∀ a b, key a = key b → key (combine a b) = key a) (x : α)
    (xs : List α) :
    (put key combine x xs).map key =
      if key x ∈ xs.map key then xs.map key else xs.map key ++ [key x] := by
  induction xs with
  | nil => simp
  | cons y ys ih =>
    by_cases h : key y = key x
    · simp [put_cons_of_eq key combine h, hkey y x h, h]
    · have h' : ¬ key x = key y := fun e => h e.symm
      rw [put_cons_of_ne key combine h, List.map_cons, ih]
      by_cases hm : key x ∈ ys.map key <;> simp [h', hm]

theorem nodup_map_key_put (hkey : ∀ a b, key a = key b → key (combine a b) = key a) (x : α)
    {xs : List α} (h : (xs.map key).Nodup) : ((put key combine x xs).map key).Nodup := by
  rw [map_key_put hkey]
  split
  · exact h
  · next hx =>
    rw [List.nodup_append]
    refine ⟨h, by simp, ?_⟩
    intro a ha b hb
    rw [List.mem_singleton] at hb
    rintro rfl
    exact hx (hb ▸ ha)

theorem nodup_map_key_putAll (hkey : ∀ a b, key a = key b → key (combine a b) = key a)
    (new : List α) {xs : List α} (h : (xs.map key).Nodup) :
    ((putAll key combine xs new).map key).Nodup := by
  induction new generalizing xs with
  | nil => exact h
  | cons x new ih => exact ih (nodup_map_key_put hkey x h)

/-- A known key changes nothing when the older entry stays. -/
theorem put_first_of_mem {x : α} {xs : List α} (h : key x ∈ xs.map key) :
    put key first x xs = xs := by
  induction xs with
  | nil => simp at h
  | cons y ys ih =>
    by_cases hy : key y = key x
    · simp [put_cons_of_eq key first hy]
    · rw [put_cons_of_ne key first hy, ih]
      simpa [show ¬ key x = key y from fun e => hy e.symm] using h

/-- A new key goes to the end, whatever the way of combining. -/
theorem put_of_not_mem {x : α} {xs : List α} (h : key x ∉ xs.map key) :
    put key combine x xs = xs ++ [x] := by
  induction xs with
  | nil => rfl
  | cons y ys ih =>
    simp only [List.map_cons, List.mem_cons, not_or] at h
    rw [put_cons_of_ne key combine (fun e => h.1 e.symm), ih h.2, List.cons_append]

end BeanContainer.Keyed
