import BeanContainer.Class.ClassList
import BeanContainer.Proofs.Keyed
import Mathlib.Data.Finset.Card
import Mathlib.Tactic.Lemma
/-!
# Class lists as ordered sets

A class list begins empty or with some classes and takes further ones, singly or several at a time
(`ClassList.History`). However it comes about, it has each class that was inserted once, by the
reference that came first and at the place of that reference.

A list that is asked often can keep its classes in a hash set as well (`ClassList.Hashed`). It then
says everything twice: the set tells what is new, the entries have the order. References are hashed
by their class alone, so the set takes two references to one class for the same, as the list does,
and no step takes the set and the entries apart (`ClassList.Hashed.Mirrors`). The two ways to keep a
list are put together in `ClassList.listed_of_history`.
-/

namespace BeanContainer

namespace ClassRef

/-- Markers take no part in hashing, as they take none in comparisons. -/
instance : Hashable ClassRef := ⟨fun c => mixHash (hash c.name) (hash c.loader.serial)⟩

instance : LawfulHashable ClassRef where
  hash_eq c d h := by
    have hid : c.id = d.id := beq_iff.1 h
    simp only [hash, name, loader, hid]

lemma list_beq_iff {cs ds : List ClassRef} :
    (cs == ds) = true ↔ cs.map ClassRef.id = ds.map ClassRef.id := by
  induction cs generalizing ds with
  | nil => cases ds <;> simp
  | cons c cs ih =>
    cases ds with
    | nil => simp
    | cons d ds => simp [ih]

end ClassRef

namespace ClassList

lemma beq_iff {l l' : ClassList} :
    (l == l') = true ↔ l.toList.map ClassRef.id = l'.toList.map ClassRef.id :=
  ClassRef.list_beq_iff

/-! ### First references -/

section Firsts

variable {l : ClassList} {given : List ClassRef}

lemma toList_extend_eq_firsts (h : l.toList = Keyed.firsts ClassRef.id given)
    (cs : List ClassRef) :
    (l.extend cs).toList = Keyed.firsts ClassRef.id (given ++ cs) := by
  rw [toList_extend, h, ← Keyed.gather_first, ← Keyed.gather_first, Keyed.gather, Keyed.gather,
    Keyed.putAll_append]

lemma contains_iff_exists (h : l.toList = Keyed.firsts ClassRef.id given) (c : ClassRef) :
    l.contains c = true ↔ ∃ d ∈ given, (d == c) = true := by
  rw [contains_iff, h, Keyed.mem_map_firsts, List.mem_map]
  simp only [ClassRef.beq_iff]

/-- As many classes are listed as were inserted. -/
lemma size_eq_card (h : l.toList = Keyed.firsts ClassRef.id given) :
    l.size = (given.map ClassRef.id).toFinset.card := by
  have hids : (l.toList.map ClassRef.id).toFinset = (given.map ClassRef.id).toFinset := by
    ext k
    rw [List.mem_toFinset, List.mem_toFinset, h, Keyed.mem_map_firsts]
  rw [← hids, List.toFinset_card_of_nodup l.nodup, List.length_map, size]

end Firsts

/-! ### How lists come about -/

/-- How a list begins. -/
inductive Beginning where
  | empty
  | collected (cs : List ClassRef)

/-- What is done to a list later on. -/
inductive Change where
  | insert (c : ClassRef)
  | extend (cs : List ClassRef)

/-- All that is done to a list, in order. -/
structure History where
  beginning : Beginning
  changes : List Change

def Beginning.inserted : Beginning → List ClassRef
  | .empty => []
  | .collected cs => cs

def Change.inserted : Change → List ClassRef
  | .insert c => [c]
  | .extend cs => cs

/-- Everything that was ever inserted, in order, no matter whether it was new. -/
def History.inserted (h : History) : List ClassRef :=
  h.beginning.inserted ++ h.changes.flatMap Change.inserted

def start : Beginning → ClassList
  | .empty => ∅
  | .collected cs => ofList cs

def change (l : ClassList) : Change → ClassList
  | .insert c => (l.insertNew c).2
  | .extend cs => l.extend cs

def ofHistory (h : History) : ClassList := h.changes.foldl change (start h.beginning)

lemma start_eq_ofList (b : Beginning) : start b = ofList b.inserted := by
  cases b <;> rfl

/-- All changes are extensions. -/
lemma change_eq_extend (l : ClassList) (e : Change) : l.change e = l.extend e.inserted := by
  cases e <;> rfl

lemma foldl_change (l : ClassList) (es : List Change) :
    es.foldl change l = l.extend (es.flatMap Change.inserted) := by
  induction es generalizing l with
  | nil => rfl
  | cons e es ih =>
    rw [List.foldl_cons, ih, change_eq_extend, List.flatMap_cons, extend_append]

/-- A list is what it would be if it were collected of everything at once. -/
lemma ofHistory_eq_ofList (h : History) : ofHistory h = ofList h.inserted := by
  rw [ofHistory, start_eq_ofList, foldl_change, ofList, ofList, ← extend_append, History.inserted]

lemma toList_ofHistory (h : History) :
    (ofHistory h).toList = Keyed.firsts ClassRef.id h.inserted := by
  rw [ofHistory_eq_ofList, ofList, toList_extend_eq_firsts (Keyed.firsts_nil).symm, List.nil_append]

/-! ### A hash set beside the list -/

/-- A list of classes that has them in a hash set as well. -/
structure Hashed where
  /-- The classes in order. -/
  entries : Array ClassRef
  /-- The classes to be looked up. -/
  members : Std.HashSet ClassRef

namespace Hashed

def empty : Hashed := ⟨#[], ∅⟩

def contains (t : Hashed) (c : ClassRef) : Bool := t.members.contains c

def size (t : Hashed) : Nat := t.entries.size

/-- Insert a class and tell whether it was new. Only what is new to the set gets an entry. -/
def insertNew (t : Hashed) (c : ClassRef) : Bool × Hashed :=
  if t.members.contains c then (false, t) else (true, ⟨t.entries.push c, t.members.insert c⟩)

def extend (t : Hashed) (cs : List ClassRef) : Hashed :=
  cs.foldl (fun t c => (t.insertNew c).2) t

def ofList (cs : List ClassRef) : Hashed := empty.extend cs

/-- Entries are compared, sets are not. -/
instance : BEq Hashed := ⟨fun t u => t.entries == u.entries⟩

def start : Beginning → Hashed
  | .empty => empty
  | .collected cs => ofList cs

def change (t : Hashed) : Change → Hashed
  | .insert c => (t.insertNew c).2
  | .extend cs => t.extend cs

def ofHistory (h : History) : Hashed := h.changes.foldl change (start h.beginning)

lemma extend_append (t : Hashed) (cs ds : List ClassRef) :
    t.extend (cs ++ ds) = (t.extend cs).extend ds := by
  simp only [extend, List.foldl_append]

variable {t u : Hashed}

lemma insertNew_of_contains {c : ClassRef} (h : t.contains c = true) :
    t.insertNew c = (false, t) := if_pos h

lemma insertNew_of_not_contains {c : ClassRef} (h : ¬ t.contains c = true) :
    t.insertNew c = (true, ⟨t.entries.push c, t.members.insert c⟩) := if_neg h

lemma fst_insertNew (t : Hashed) (c : ClassRef) : (t.insertNew c).1 = !t.contains c := by
  by_cases h : t.contains c = true
  · rw [insertNew_of_contains h, h, Bool.not_true]
  · rw [insertNew_of_not_contains h, Bool.eq_false_iff.2 h, Bool.not_false]

/-- Entries and members are those of a list: the entries in its order, the members in whatever
order the set has them. -/
structure Mirrors (t : Hashed) (l : ClassList) : Prop where
  entries : t.entries.toList = l.toList
  members : t.members.toList.Perm l.toList

namespace Mirrors

variable {l l' : ClassList}

lemma contains_eq (h : t.Mirrors l) (c : ClassRef) : t.contains c = l.contains c := by
  calc t.members.contains c
      = t.members.toList.contains c := Std.HashSet.contains_toList.symm
    _ = l.toList.contains c := h.members.contains_eq
    _ = l.toList.any (· == c) := by
        rw [List.contains_eq_any_beq]
        simp only [BEq.comm]

lemma size_eq (h : t.Mirrors l) : t.size = l.size := by
  rw [size, ClassList.size, ← h.entries, Array.length_toList]

lemma beq_eq (h : t.Mirrors l) (h' : u.Mirrors l') : (t == u) = (l == l') := by
  calc (t.entries == u.entries)
      = (t.entries.toList == u.entries.toList) := (Array.beq_toList _ _).symm
    _ = (l.toList == l'.toList) := by rw [h.entries, h'.entries]

/-- A class that is known changes neither part, one that is new goes into both. -/
lemma insertNew (h : t.Mirrors l) (c : ClassRef) :
    (t.insertNew c).2.Mirrors (l.insertNew c).2 := by
  by_cases hc : l.contains c = true
  · have ht : t.contains c = true := (h.contains_eq c).trans hc
    have hl : (l.insertNew c).2 = l := insert_of_contains hc
    rw [insertNew_of_contains ht, hl]
    exact h
  · have ht : ¬ t.contains c = true := fun e => hc ((h.contains_eq c).symm.trans e)
    have hl : (l.insertNew c).2.toList = l.toList ++ [c] := toList_insert_of_not_contains hc
    rw [insertNew_of_not_contains ht]
    constructor
    · rw [Array.toList_push, h.entries, hl]
    · -- the set may have its new member anywhere, the list has it at the end
      have hmem : c ∉ t.members := ht
      have hinsert : (t.members.insert c).toList.Perm (c :: t.members.toList) := by
        simpa only [if_neg hmem] using Std.HashSet.toList_insert_perm (m := t.members) (k := c)
      rw [hl]
      calc List.Perm (t.members.insert c).toList (c :: t.members.toList) := hinsert
        List.Perm _ (c :: l.toList) := h.members.cons c
        List.Perm _ (l.toList ++ [c]) := (List.perm_append_singleton c l.toList).symm

lemma extend (h : t.Mirrors l) (cs : List ClassRef) : (t.extend cs).Mirrors (l.extend cs) := by
  induction cs generalizing t l with
  | nil => exact h
  | cons c cs ih => exact ih (h.insertNew c)

lemma change (h : t.Mirrors l) (e : Change) : (t.change e).Mirrors (l.change e) := by
  cases e with
  | insert c => exact h.insertNew c
  | extend cs => exact h.extend cs

lemma foldl_change (h : t.Mirrors l) (es : List Change) :
    (es.foldl Hashed.change t).Mirrors (es.foldl ClassList.change l) := by
  induction es generalizing t l with
  | nil => exact h
  | cons e es ih => exact ih (h.change e)

end Mirrors

lemma mirrors_empty : empty.Mirrors ∅ := by
  constructor
  · rfl
  · rw [empty, Std.HashSet.toList_empty]
    rfl

lemma mirrors_start (b : Beginning) : (start b).Mirrors (ClassList.start b) := by
  cases b with
  | empty => exact mirrors_empty
  | collected cs => exact mirrors_empty.extend cs

/-- Lists with the same history are the same list, with or without a set beside it. -/
lemma mirrors_ofHistory (h : History) : (ofHistory h).Mirrors (ClassList.ofHistory h) :=
  (mirrors_start h.beginning).foldl_change h.changes

end Hashed

/-- A list of classes and the set beside it have the same classes, each of them once. In order, they
are the classes of everything that was inserted, at the place and by the reference that came first,
so their number is that of the classes inserted, and a class is found exactly if a reference to it
was inserted. An insertion is told to be new exactly if the class was not found before, and changes
nothing otherwise. Classes can be added all at once or in two parts, and two lists are equal exactly
if they list the same classes in the same order. -/
theorem listed_of_history (h : History) :
    let l := ofHistory h
    let t := Hashed.ofHistory h
    (t.entries.toList = l.toList ∧ t.members.toList.Perm t.entries.toList ∧
      (l.toList.map ClassRef.id).Nodup) ∧
    (l.toList = Keyed.firsts ClassRef.id h.inserted ∧
      ∀ c, l.toList.find? (· == c) = h.inserted.find? (· == c)) ∧
    (∀ c, t.contains c = l.contains c ∧
      (l.contains c = true ↔ ∃ d ∈ h.inserted, (d == c) = true)) ∧
    (∀ c, (l.insertNew c).1 = !l.contains c ∧ (t.insertNew c).1 = !t.contains c ∧
      if l.contains c then (l.insertNew c).2 = l ∧ (t.insertNew c).2 = t
      else (l.insertNew c).2.toList = l.toList ++ [c] ∧
        (t.insertNew c).2.entries = t.entries.push c) ∧
    (t.size = l.size ∧ l.size = (h.inserted.map ClassRef.id).toFinset.card) ∧
    (∀ cs ds, l.extend (cs ++ ds) = (l.extend cs).extend ds ∧
      t.extend (cs ++ ds) = (t.extend cs).extend ds) ∧
    ∀ h' : History, (t == Hashed.ofHistory h') = (l == ofHistory h') ∧
      ((l == ofHistory h') = true ↔
        l.toList.map ClassRef.id = (ofHistory h').toList.map ClassRef.id) := by
  intro l t
  have hmirrors : t.Mirrors l := Hashed.mirrors_ofHistory h
  have hfirsts : l.toList = Keyed.firsts ClassRef.id h.inserted := toList_ofHistory h
  refine ⟨⟨hmirrors.entries, ?_, l.nodup⟩, ⟨hfirsts, ?_⟩, ?_, ?_,
    ⟨hmirrors.size_eq, size_eq_card hfirsts⟩, ?_, ?_⟩
  · rw [hmirrors.entries]
    exact hmirrors.members
  · intro c
    rw [hfirsts]
    exact Keyed.find?_firsts h.inserted c.id
  · intro c
    exact ⟨hmirrors.contains_eq c, contains_iff_exists hfirsts c⟩
  · intro c
    refine ⟨rfl, t.fst_insertNew c, ?_⟩
    by_cases hc : l.contains c = true
    · have ht : t.contains c = true := (hmirrors.contains_eq c).trans hc
      rw [if_pos hc]
      exact ⟨insert_of_contains hc, by rw [Hashed.insertNew_of_contains ht]⟩
    · have ht : ¬ t.contains c = true := fun e => hc ((hmirrors.contains_eq c).symm.trans e)
      rw [if_neg hc]
      exact ⟨toList_insert_of_not_contains hc, by rw [Hashed.insertNew_of_not_contains ht]⟩
  · intro cs ds
    exact ⟨l.extend_append cs ds, t.extend_append cs ds⟩
  · intro h'
    exact ⟨hmirrors.beq_eq (Hashed.mirrors_ofHistory h'), beq_iff⟩

/-- The first reference to a class keeps its place and its markers. -/
example :
    let stub : ClassRef := ⟨⟨"app::Stub", .system⟩, {}⟩
    let port : ClassRef := ⟨⟨"app::Port", .system⟩, {}⟩
    let marked : ClassRef := { port with markers := { alternative := true } }
    let l := ofList [marked, stub]
    (l.insertNew port).1 = false ∧ ((l.insertNew port).2.extend [stub, port]).toList =
      [marked, stub] := by
  decide

end ClassList

end BeanContainer
