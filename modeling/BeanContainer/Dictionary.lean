/-!
# Dictionaries in key order

A dictionary lists its entries in strictly ascending key order. The order makes the list canonical:
two dictionaries with the same look-ups are equal (`Dictionary.ext_get?`), so `=` compares contents
and `toList` is what an iteration shows.

Every operation is described by its look-ups: `get?_insert`, `get?_erase` and `get?_merge`.
-/

namespace BeanContainer

/-- Finitely many values under distinct keys, listed by ascending key. -/
structure Dictionary (κ α : Type) [Ord κ] where
  toList : List (κ × α)
  /-- Each key is below all later ones. -/
  ascending : toList.Pairwise fun a b => compare a.1 b.1 = .lt

namespace Dictionary

variable {κ α : Type} [Ord κ]

/-! ### Entry lists -/

/-- Insert into an ascending list, replacing the value of a key that is there already. -/
def insertEntry (k : κ) (v : α) : List (κ × α) → List (κ × α)
  | [] => [(k, v)]
  | e :: es =>
    match compare k e.1 with
    | .lt => (k, v) :: e :: es
    | .eq => (k, v) :: es
    | .gt => e :: insertEntry k v es

/-- The value of the first entry with the key. -/
def lookup (k : κ) : List (κ × α) → Option α
  | [] => none
  | e :: es => if compare k e.1 = .eq then some e.2 else lookup k es

theorem mem_insertEntry {k : κ} {v : α} {es : List (κ × α)} {e : κ × α}
    (h : e ∈ insertEntry k v es) : e = (k, v) ∨ e ∈ es := by
  induction es with
  | nil => simpa [insertEntry] using h
  | cons d ds ih =>
    simp only [insertEntry] at h
    split at h <;> grind

theorem lookup_append (k : κ) (es ds : List (κ × α)) :
    lookup k (es ++ ds) = (lookup k es).or (lookup k ds) := by
  induction es with
  | nil => simp [lookup]
  | cons e es ih => simp only [List.cons_append, lookup, ih]; split <;> simp

theorem lookup_eq_none_of_lt {k : κ} {es : List (κ × α)}
    (h : ∀ e ∈ es, compare k e.1 = .lt) : lookup k es = none := by
  induction es with
  | nil => rfl
  | cons d ds ih =>
    have hd : compare k d.1 = .lt := h d List.mem_cons_self
    simp [lookup, hd, ih fun e he => h e (List.mem_cons_of_mem _ he)]

section LawfulEqOrd

variable [Std.LawfulEqOrd κ]

theorem lookup_cons_self (e : κ × α) (es : List (κ × α)) : lookup e.1 (e :: es) = some e.2 := by
  simp [lookup]

theorem lookup_cons_of_ne {k : κ} {e : κ × α} (h : k ≠ e.1) (es : List (κ × α)) :
    lookup k (e :: es) = lookup k es := by
  simp [lookup, h]

theorem lookup_insertEntry [DecidableEq κ] (k k' : κ) (v : α) (es : List (κ × α)) :
    lookup k' (insertEntry k v es) = if k' = k then some v else lookup k' es := by
  induction es with
  | nil => simp [insertEntry, lookup]
  | cons d ds ih =>
    simp only [insertEntry]
    split <;> grind [lookup, Std.LawfulEqOrd.compare_eq_iff_eq]

/-- In an ascending list no key comes twice, so the direction of the search does not matter. -/
theorem lookup_reverse {es : List (κ × α)} (h : es.Pairwise fun a b => compare a.1 b.1 = .lt)
    (k : κ) : lookup k es.reverse = lookup k es := by
  induction es with
  | nil => rfl
  | cons e es ih =>
    rw [List.pairwise_cons] at h
    rw [List.reverse_cons, lookup_append, ih h.2]
    by_cases hk : compare k e.1 = .eq
    · have hke : k = e.1 := Std.LawfulEqOrd.eq_of_compare hk
      simp [lookup, hk, lookup_eq_none_of_lt (hke ▸ h.1)]
    · simp [lookup, hk]

theorem lookup_eq_some_iff {es : List (κ × α)}
    (h : es.Pairwise fun a b => compare a.1 b.1 = .lt) {k : κ} {v : α} :
    lookup k es = some v ↔ (k, v) ∈ es := by
  induction es with
  | nil => simp [lookup]
  | cons e es ih =>
    rw [List.pairwise_cons] at h
    by_cases hk : compare k e.1 = .eq
    · have hke : k = e.1 := Std.LawfulEqOrd.eq_of_compare hk
      have hnot : (k, v) ∉ es := fun hm => by
        have := h.1 _ hm
        rw [← hke, Std.ReflOrd.compare_self] at this
        cases this
      rw [List.mem_cons, or_iff_left hnot, lookup, if_pos hk, Prod.ext_iff]
      exact ⟨fun h' => ⟨hke, (Option.some.inj h').symm⟩, fun h' => congrArg some h'.2.symm⟩
    · have hke : ¬ k = e.1 := fun e' => hk (e' ▸ Std.ReflOrd.compare_self)
      simp [lookup, hk, ih h.2, Prod.ext_iff, hke]

end LawfulEqOrd

/-! ### Reading and removing -/

def empty : Dictionary κ α := ⟨[], List.Pairwise.nil⟩

instance : EmptyCollection (Dictionary κ α) := ⟨empty⟩

instance : Inhabited (Dictionary κ α) := ⟨∅⟩

def get? (d : Dictionary κ α) (k : κ) : Option α := lookup k d.toList

def contains (d : Dictionary κ α) (k : κ) : Bool := (d.get? k).isSome

def keys (d : Dictionary κ α) : List κ := d.toList.map Prod.fst

def size (d : Dictionary κ α) : Nat := d.toList.length

def erase (d : Dictionary κ α) (k : κ) : Dictionary κ α :=
  ⟨d.toList.filter fun e => compare k e.1 != .eq, d.ascending.filter _⟩

/-- The same contents, with values compared by `==`. -/
instance [BEq κ] [BEq α] : BEq (Dictionary κ α) := ⟨fun a b => a.toList == b.toList⟩

instance [BEq κ] [BEq α] [ReflBEq κ] [ReflBEq α] : ReflBEq (Dictionary κ α) where
  rfl {d} := BEq.refl d.toList

@[simp] theorem get?_empty (k : κ) : (∅ : Dictionary κ α).get? k = none := rfl

section LawfulEqOrd

variable [Std.LawfulEqOrd κ]

theorem get?_erase [DecidableEq κ] (d : Dictionary κ α) (k k' : κ) :
    (d.erase k).get? k' = if k' = k then none else d.get? k' := by
  obtain ⟨es, hes⟩ := d
  simp only [erase, get?]
  clear hes
  induction es with
  | nil => simp [lookup]
  | cons e es ih =>
    simp only [List.filter_cons]
    split <;> grind [lookup, Std.LawfulEqOrd.compare_eq_iff_eq]

theorem mem_toList_iff (d : Dictionary κ α) {k : κ} {v : α} :
    (k, v) ∈ d.toList ↔ d.get? k = some v := (lookup_eq_some_iff d.ascending).symm

theorem mem_keys_iff (d : Dictionary κ α) {k : κ} : k ∈ d.keys ↔ d.contains k = true := by
  simp only [keys, List.mem_map, contains, Option.isSome_iff_exists, ← mem_toList_iff]
  exact ⟨fun ⟨⟨_, v⟩, h, e⟩ => ⟨v, e ▸ h⟩, fun ⟨v, h⟩ => ⟨(k, v), h, rfl⟩⟩

end LawfulEqOrd

/-! ### Writing -/

variable [Std.TransOrd κ] [Std.LawfulEqOrd κ]

theorem ascending_insertEntry (k : κ) (v : α) {es : List (κ × α)}
    (h : es.Pairwise fun a b => compare a.1 b.1 = .lt) :
    (insertEntry k v es).Pairwise fun a b => compare a.1 b.1 = .lt := by
  induction es with
  | nil => simp [insertEntry]
  | cons d ds ih =>
    rw [List.pairwise_cons] at h
    simp only [insertEntry]
    split
    · next hlt =>
      refine List.pairwise_cons.2 ⟨fun e he => ?_, List.pairwise_cons.2 h⟩
      rcases List.mem_cons.1 he with rfl | he
      · exact hlt
      · exact Std.TransCmp.lt_trans hlt (h.1 e he)
    · next heq =>
      have : k = d.1 := Std.LawfulEqOrd.eq_of_compare heq
      exact List.pairwise_cons.2 ⟨this ▸ h.1, h.2⟩
    · next hgt =>
      refine List.pairwise_cons.2 ⟨fun e he => ?_, ih h.2⟩
      rcases mem_insertEntry he with rfl | he
      · exact Std.OrientedCmp.lt_of_gt hgt
      · exact h.1 e he

/-- Write a value under a key, replacing one that is there. -/
def insert (d : Dictionary κ α) (k : κ) (v : α) : Dictionary κ α :=
  ⟨insertEntry k v d.toList, ascending_insertEntry k v d.ascending⟩

/-- Write all entries of a list, one after the other. -/
def insertAll (d : Dictionary κ α) (es : List (κ × α)) : Dictionary κ α :=
  es.foldl (fun d e => d.insert e.1 e.2) d

/-- The dictionary of a list of entries; of two with one key the later wins. -/
def ofList (es : List (κ × α)) : Dictionary κ α := insertAll ∅ es

/-- All keys of both, with the value of `new` where both have one. -/
def merge (old new : Dictionary κ α) : Dictionary κ α := old.insertAll new.toList

theorem get?_insert [DecidableEq κ] (d : Dictionary κ α) (k k' : κ) (v : α) :
    (d.insert k v).get? k' = if k' = k then some v else d.get? k' :=
  lookup_insertEntry k k' v d.toList

@[simp] theorem get?_insert_self (d : Dictionary κ α) (k : κ) (v : α) :
    (d.insert k v).get? k = some v := by
  classical simp [get?_insert]

/-- Of several entries with one key the last one is kept. -/
theorem get?_insertAll (d : Dictionary κ α) (es : List (κ × α)) (k : κ) :
    (d.insertAll es).get? k = (lookup k es.reverse).or (d.get? k) := by
  classical
  induction es generalizing d with
  | nil => simp [insertAll, lookup]
  | cons e es ih =>
    show ((d.insert e.1 e.2).insertAll es).get? k = _
    rw [ih, get?_insert, List.reverse_cons, lookup_append, Option.or_assoc]
    by_cases hk : k = e.1 <;> simp [hk, lookup]

/-- Merging replaces whole values: the newer value of a key wins, and no key is lost. -/
theorem get?_merge (old new : Dictionary κ α) (k : κ) :
    (old.merge new).get? k = (new.get? k).or (old.get? k) := by
  rw [merge, get?_insertAll, lookup_reverse new.ascending]
  rfl

/-! ### Equality of contents -/

/-- Strictly ascending lists with the same members are the same list. -/
theorem toList_eq_of_mem_iff {es ds : List (κ × α)}
    (he : es.Pairwise fun a b => compare a.1 b.1 = .lt)
    (hd : ds.Pairwise fun a b => compare a.1 b.1 = .lt) (h : ∀ x, x ∈ es ↔ x ∈ ds) : es = ds := by
  have irrefl : ∀ a : κ × α, compare a.1 a.1 ≠ .lt := fun a => by
    rw [Std.ReflOrd.compare_self]; exact nofun
  induction es generalizing ds with
  | nil =>
    cases ds with
    | nil => rfl
    | cons d ds => exact absurd ((h d).2 List.mem_cons_self) (by simp)
  | cons e es ih =>
    cases ds with
    | nil => exact absurd ((h e).1 List.mem_cons_self) (by simp)
    | cons d ds =>
      rw [List.pairwise_cons] at he hd
      have hed : e = d := by
        rcases List.mem_cons.1 ((h e).1 List.mem_cons_self) with h1 | h1
        · exact h1
        rcases List.mem_cons.1 ((h d).2 List.mem_cons_self) with h2 | h2
        · exact h2.symm
        exact absurd (Std.TransCmp.lt_trans (hd.1 _ h1) (he.1 _ h2)) (irrefl _)
      subst hed
      congr 1
      refine ih he.2 hd.2 fun x => ⟨fun hx => ?_, fun hx => ?_⟩
      · rcases List.mem_cons.1 ((h x).1 (List.mem_cons_of_mem _ hx)) with rfl | hx'
        · exact absurd (he.1 _ hx) (irrefl _)
        · exact hx'
      · rcases List.mem_cons.1 ((h x).2 (List.mem_cons_of_mem _ hx)) with rfl | hx'
        · exact absurd (hd.1 _ hx) (irrefl _)
        · exact hx'

/-- Dictionaries are equal when all look-ups agree. -/
theorem ext_get? {a b : Dictionary κ α} (h : ∀ k, a.get? k = b.get? k) : a = b := by
  obtain ⟨es, he⟩ := a
  obtain ⟨ds, hd⟩ := b
  congr
  refine toList_eq_of_mem_iff he hd fun ⟨k, v⟩ => ?_
  have := h k
  simp only [get?] at this
  rw [← lookup_eq_some_iff he, ← lookup_eq_some_iff hd, this]

/-! ### Comparison -/

theorem cons_beq_cons_iff {κ α : Type} [BEq κ] [LawfulBEq κ] [BEq α] {e d : κ × α}
    {es ds : List (κ × α)} :
    (e :: es == d :: ds) = true ↔ e.1 = d.1 ∧ (e.2 == d.2) = true ∧ (es == ds) = true := by
  rw [List.cons_beq_cons, Bool.and_eq_true, ← and_assoc]
  refine and_congr_left fun _ => ?_
  show (e.1 == d.1 && e.2 == d.2) = true ↔ _
  rw [Bool.and_eq_true, beq_iff_eq]

variable [BEq α]

/-- Ascending lists whose look-ups compare equal begin with the same key. -/
theorem key_eq_of_beq_lookup {e d : κ × α} {es ds : List (κ × α)}
    (he : (e :: es).Pairwise fun a b => compare a.1 b.1 = .lt)
    (hd : (d :: ds).Pairwise fun a b => compare a.1 b.1 = .lt)
    (h : ∀ k, (lookup k (e :: es) == lookup k (d :: ds)) = true) : e.1 = d.1 := by
  -- a key below the first one is not there
  have hbelow : ∀ {k : κ} {b : κ × α} {bs : List (κ × α)},
      (b :: bs).Pairwise (fun a b => compare a.1 b.1 = .lt) → compare k b.1 = .lt →
        lookup k (b :: bs) = none := by
    intro k b bs hbs hlt
    refine lookup_eq_none_of_lt fun c hc => ?_
    rcases List.mem_cons.1 hc with rfl | hc
    · exact hlt
    · exact Std.TransCmp.lt_trans hlt ((List.pairwise_cons.1 hbs).1 c hc)
  match hcmp : compare e.1 d.1 with
  | .eq => exact Std.LawfulEqOrd.eq_of_compare hcmp
  | .lt =>
    have hk := h e.1
    rw [lookup_cons_self, hbelow hd hcmp] at hk
    cases hk
  | .gt =>
    have hk := h d.1
    rw [lookup_cons_self, hbelow he (Std.OrientedCmp.lt_of_gt hcmp)] at hk
    cases hk

/-- Ascending lists compare equal when look-ups do. -/
theorem beq_iff_lookup [BEq κ] [LawfulBEq κ] {es ds : List (κ × α)}
    (he : es.Pairwise fun a b => compare a.1 b.1 = .lt)
    (hd : ds.Pairwise fun a b => compare a.1 b.1 = .lt) :
    (es == ds) = true ↔ ∀ k, (lookup k es == lookup k ds) = true := by
  induction es generalizing ds with
  | nil =>
    cases ds with
    | nil => simp [lookup]
    | cons d ds => exact ⟨nofun, fun h => by simpa [lookup] using h d.1⟩
  | cons e es ih =>
    cases ds with
    | nil => exact ⟨nofun, fun h => by simpa [lookup] using h e.1⟩
    | cons d ds =>
      have hes := (List.pairwise_cons.1 he).1
      have hds := (List.pairwise_cons.1 hd).1
      have hrest := ih (List.pairwise_cons.1 he).2 (List.pairwise_cons.1 hd).2
      rw [cons_beq_cons_iff]
      constructor
      · rintro ⟨hkey, hvalue, htail⟩ k
        by_cases hk : k = e.1
        · rw [hk, lookup_cons_self, hkey, lookup_cons_self]
          exact hvalue
        · rw [lookup_cons_of_ne hk, lookup_cons_of_ne (hkey ▸ hk)]
          exact hrest.1 htail k
      · intro h
        have hkey := key_eq_of_beq_lookup he hd h
        refine ⟨hkey, ?_, hrest.2 fun k => ?_⟩
        · have hvalue := h e.1
          rwa [lookup_cons_self, hkey, lookup_cons_self] at hvalue
        · by_cases hk : k = e.1
          · rw [hk, lookup_eq_none_of_lt hes, hkey, lookup_eq_none_of_lt hds]
            rfl
          · have htail := h k
            rwa [lookup_cons_of_ne hk, lookup_cons_of_ne (hkey ▸ hk)] at htail

/-- Dictionaries compare equal when look-ups do. -/
theorem beq_iff_get? [BEq κ] [LawfulBEq κ] {a b : Dictionary κ α} :
    (a == b) = true ↔ ∀ k, (a.get? k == b.get? k) = true :=
  beq_iff_lookup a.ascending b.ascending

end Dictionary

end BeanContainer
